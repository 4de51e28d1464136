import Scaffold.Text.Basic

/-!
This module contains the import lines of a generated file: the table of the contracts and types that
come with the framework, and the choice of the lines that a set of them needs.
-/

namespace Scaffold

namespace Solidity

def fileName (name : Text) : Text :=
  name ++ ".sol"

inductive Symbol where
  | attestation
  | eas
  | attestationRequest
  | attestationRequestData
  | revocationRequest
  | revocationRequestData
  | schemaRegistry
  | baseObligation
  | arbiter
  | arbiterUtils
  deriving DecidableEq, Repr

namespace Symbol

def name : Symbol → Text
  | attestation => "Attestation"
  | eas => "IEAS"
  | attestationRequest => "AttestationRequest"
  | attestationRequestData => "AttestationRequestData"
  | revocationRequest => "RevocationRequest"
  | revocationRequestData => "RevocationRequestData"
  | schemaRegistry => "ISchemaRegistry"
  | baseObligation => "BaseObligation"
  | arbiter => "IArbiter"
  | arbiterUtils => "ArbiterUtils"

end Symbol

structure Import where
  names : List Text
  source : Text
  deriving DecidableEq, Repr

namespace Import

def line (i : Import) : Text :=
  "import \x7b" ++ Text.join ", " i.names ++ "\x7d from \"" ++ i.source ++ "\";"

def sibling (name : Text) : Import where
  names := [name]
  source := "./" ++ fileName name

structure Group where
  symbols : List Symbol
  source : Text

def table : List Group := [
  ⟨[.attestation], "@eas/Common.sol"⟩,
  ⟨[.eas, .attestationRequest, .attestationRequestData, .revocationRequest,
    .revocationRequestData], "@eas/IEAS.sol"⟩,
  ⟨[.schemaRegistry], "@eas/ISchemaRegistry.sol"⟩,
  ⟨[.baseObligation], "../BaseObligation.sol"⟩,
  ⟨[.arbiter], "../IArbiter.sol"⟩,
  ⟨[.arbiterUtils], "../ArbiterUtils.sol"⟩]

def symbols : List Symbol :=
  table.flatMap Group.symbols

def isTableName (name : Text) : Bool :=
  symbols.any (·.name = name)

def Group.import? (wanted : List Symbol) (g : Group) : Option Import :=
  match g.symbols.filter (· ∈ wanted) with
  | [] => none
  | chosen => some ⟨chosen.map Symbol.name, g.source⟩

/--
The lines that bring in the wanted symbols. Order and repetition in the request do not matter: lines
and names come in the order of the table.
-/
def resolve (wanted : List Symbol) : List Import :=
  table.filterMap (Group.import? wanted)

end Import

end Solidity

end Scaffold
