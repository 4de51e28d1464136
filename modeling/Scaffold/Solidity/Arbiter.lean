import Scaffold.Solidity.Obligation

/-!
This module contains the contract that is composed from the specification of an arbiter.

An arbiter that is made for one obligation contract keeps a reference to it and refuses obligations
of any other schema. A generic arbiter has neither; the error is declared in both cases, so that
checks written later can use it.
-/

namespace Scaffold

namespace Arbiter

open Solidity

def mismatchError : Text := "IncompatibleObligation"

def imports (a : Arbiter) : List Import :=
  Import.resolve [.attestation, .arbiter, .arbiterUtils] ++ a.base.toList.map Import.sibling

def errorLines : List Text :=
  ["  error " ++ mismatchError ++ "();"]

def constructorBlocks : Option Text → List (List Text)
  | none => [["  constructor() \x7b\x7d"]]
  | some base => [
    ["  ".toList ++ base ++ " public immutable baseObligation;"],
    [
      "  constructor(".toList ++ base ++ " _baseObligation) \x7b",
      "    baseObligation = _baseObligation;",
      "  \x7d"]]

def guardLine : Text :=
  "if (obligation.schema != baseObligation.ATTESTATION_SCHEMA()) revert " ++ mismatchError ++ "();"

def decodeLines : List Text := [
  "DemandData memory demand_ = abi.decode(demand, (DemandData));",
  "",
  "// implement custom checks here.",
  "// early revert with custom errors is recommended on failure.",
  "// remember that utility checks are available in ArbiterUtils"]

def hintLine : Text :=
  "// and you can also use baseObligation.checkObligation() if appropriate."

def acceptLines : List Text :=
  ["// ...", "return true;"]

/--
The method that judges an obligation. The schema is compared before the demand is decoded.
-/
def checkLines (specialized : Bool) : List Text :=
  method checkHeading (
    (if specialized then [guardLine] else []) ++ decodeLines ++
    (if specialized then [hintLine] else []) ++ acceptLines)

def blocks (a : Arbiter) : List (List Text) :=
  [usingLines, structLines demandStruct a.demandFields, errorLines] ++
  constructorBlocks a.base ++
  [checkLines a.base.isSome]

def sourceFile (a : Arbiter) : SourceFile where
  imports := a.imports
  name := a.name
  bases := [Symbol.name .arbiter]
  members := a.blocks.map Text.unlines

def source (a : Arbiter) : Text :=
  a.sourceFile.text

end Arbiter

namespace Spec

def source : Spec → Text
  | obligation o => o.source
  | arbiter a => a.source

end Spec

end Scaffold
