import Scaffold.Spec.Basic
import Scaffold.Field.List
import Scaffold.Solidity.Layout

/-!
This module contains the contract that is composed from the specification of an obligation.
-/

namespace Scaffold

namespace Solidity

def usingLines : List Text := ["  using ArbiterUtils for Attestation;"]

def dataStruct : Text := "ObligationData"

def demandStruct : Text := "DemandData"

def checkHeading : List Text := [
  "function checkObligation(",
  "  Attestation memory obligation,",
  "  bytes memory demand,",
  "  bytes32 counteroffer",
  ") public view override returns (bool) \x7b"]

end Solidity

namespace Obligation

open Solidity

def symbols (o : Obligation) : List Symbol :=
  [.baseObligation, .eas, .schemaRegistry, .attestation, .attestationRequest,
    .attestationRequestData] ++
  (if o.isRevocable then [.revocationRequest, .revocationRequestData] else []) ++
  (if o.hasVerification then [.arbiter, .arbiterUtils] else [])

def constructorLines (o : Obligation) : List Text := [
  "  constructor(IEAS _eas, ISchemaRegistry _schemaRegistry)",
  "    BaseObligation(_eas, _schemaRegistry, \"" ++ o.dataFields.signature ++ "\", " ++
    literal o.isRevocable ++ ")",
  "  \x7b\x7d"]

def makeLines (o : Obligation) : List Text :=
  method [
    "function makeObligation(",
    "  ObligationData calldata data,",
    "  uint64 expirationTime,",
    "  bytes32 fulfilling",
    ") public returns (bytes32 uid_) \x7b"] [
    "// implement custom obligation pre-conditions here",
    "// ...",
    "uid_ = eas.attest(",
    "  AttestationRequest(\x7b",
    "    schema: ATTESTATION_SCHEMA,",
    "    data: AttestationRequestData(\x7b",
    "      recipient: msg.sender,",
    "      expirationTime: expirationTime,",
    "      revocable: ".toList ++ literal o.isRevocable ++ ",",
    "      refUID: fulfilling,",
    "      data: abi.encode(data),",
    "      value: 0",
    "    \x7d)",
    "  \x7d)",
    ");",
    "// implement custom obligation post-conditions here",
    "// ..."]

def finalizationLines (index : Nat) : List Text :=
  method [
    "function finalize_".toList ++ Nat.toDigits 10 index ++
      "(bytes32 obligation) public returns (bool) \x7b"] [
    "// implement custom finalization term (e.g. cancellation or completion) pre-conditions here",
    "// ...",
    "eas.revoke(",
    "  RevocationRequest(\x7b",
    "    schema: ATTESTATION_SCHEMA,",
    "    data: RevocationRequestData(\x7buid: obligation, value: 0\x7d)",
    "  \x7d)",
    ");",
    "// implement custom finalization term (e.g. cancellation or completion) post-conditions here",
    "// ...",
    "return true;"]

def checkLines : List Text :=
  method checkHeading [
    "if (!obligation._checkIntrinsic()) return false;",
    "",
    "ObligationData memory data_ = abi.decode(obligation.data, (ObligationData));",
    "DemandData memory demand_ = abi.decode(demand, (DemandData));",
    "",
    "// implement custom obligation verification logic here",
    "// we recommend early revert on invalid conditions",
    "// ...",
    "return true;"]

/--
The members that only a contract with verification has, in front of the data struct and behind it.
-/
def verificationBlocks (o : Obligation) (blocks : List (List Text)) : List (List Text) :=
  if o.hasVerification then blocks else []

def blocks (o : Obligation) : List (List Text) :=
  o.verificationBlocks [usingLines] ++
  [structLines dataStruct o.dataFields] ++
  -- Where there is verification, a valid specification has demand fields.
  o.verificationBlocks [structLines demandStruct (o.demandFields.getD [])] ++
  [o.constructorLines, o.makeLines] ++
  (List.range o.terms).map finalizationLines ++
  o.verificationBlocks [checkLines]

def sourceFile (o : Obligation) : SourceFile where
  imports := Import.resolve o.symbols
  name := o.name
  bases := Symbol.name .baseObligation :: if o.hasVerification then [Symbol.name .arbiter] else []
  members := o.blocks.map Text.unlines

def source (o : Obligation) : Text :=
  o.sourceFile.text

end Obligation

end Scaffold
