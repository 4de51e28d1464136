import Scaffold.Spec.Record
import Scaffold.Spec.Basic

/-!
This module contains specifications as documents: the keys of both kinds, how a specification is
read, and how it is written.
-/

namespace Scaffold

inductive ObligationKey where
  | name
  | hasVerification
  | isRevocable
  | termCount
  | dataFields
  | demandFields
  deriving DecidableEq, Repr

instance : RecordKey ObligationKey where
  title := "struct ObligationSpec"
  all := [.name, .hasVerification, .isRevocable, .termCount, .dataFields, .demandFields]
  mem_all k := by cases k <;> simp
  name
    | .name => "name"
    | .hasVerification => "has_verification"
    | .isRevocable => "is_revocable"
    | .termCount => "finalization_term_count"
    | .dataFields => "data_fields"
    | .demandFields => "demand_fields"
  nodup_names := by decide
  Content
    | .name => Text
    | .hasVerification => Bool
    | .isRevocable => Bool
    | .termCount => UInt64
    | .dataFields => FieldList
    | .demandFields => Option FieldList
  read
    | .name => Tree.asText
    | .hasVerification => Tree.asFlag
    | .isRevocable => Tree.asFlag
    | .termCount => Tree.asCount
    | .dataFields => Tree.asFields
    | .demandFields => Tree.asOption Tree.asFields
  default?
    | .name => none
    | .hasVerification => some false
    | .isRevocable => some false
    | .termCount => some (0 : UInt64)
    | .dataFields => none
    | .demandFields => some none

inductive ArbiterKey where
  | name
  | base
  | demandFields
  deriving DecidableEq, Repr

instance : RecordKey ArbiterKey where
  title := "struct ArbiterSpec"
  all := [.name, .base, .demandFields]
  mem_all k := by cases k <;> simp
  name
    | .name => "name"
    | .base => "base_obligation_name"
    | .demandFields => "demand_fields"
  nodup_names := by decide
  Content
    | .name => Text
    | .base => Option Text
    | .demandFields => FieldList
  read
    | .name => Tree.asText
    | .base => Tree.asOption Tree.asText
    | .demandFields => Tree.asFields
  default?
    | .name => none
    | .base => some none
    | .demandFields => none

namespace Obligation

def ofRecord (r : Record ObligationKey) : Obligation where
  name := r .name
  hasVerification := r .hasVerification
  isRevocable := r .isRevocable
  termCount := r .termCount
  dataFields := r .dataFields
  demandFields := r .demandFields

/--
The members in the order in which they are declared. Demand fields that are not there are left out.
-/
def toJson (o : Obligation) : Json :=
  .object <|
    [(key .name, .string o.name),
      (key .hasVerification, .bool o.hasVerification),
      (key .isRevocable, .bool o.isRevocable),
      (key .termCount, .number (.integer o.termCount.toNat)),
      (key .dataFields, o.dataFields.toJson)] ++
    o.demandFields.toList.map fun fs => (key .demandFields, fs.toJson)
where
  key : ObligationKey → Text := RecordKey.name

end Obligation

namespace Arbiter

def ofRecord (r : Record ArbiterKey) : Arbiter where
  name := r .name
  base := r .base
  demandFields := r .demandFields

def toJson (a : Arbiter) : Json :=
  .object <|
    [(key .name, .string a.name)] ++
    a.base.toList.map (fun base => (key .base, .string base)) ++
    [(key .demandFields, a.demandFields.toJson)]
where
  key : ArbiterKey → Text := RecordKey.name

end Arbiter

namespace Spec

def ofDocument (bytes : Bytes) : Kind → Except DocumentFault Spec
  | .obligation => (Record.ofDocument bytes).map fun r => .obligation (.ofRecord r)
  | .arbiter => (Record.ofDocument bytes).map fun r => .arbiter (.ofRecord r)

def toJson : Spec → Json
  | obligation o => o.toJson
  | arbiter a => a.toJson

def document (s : Spec) : Text :=
  s.toJson.pretty 0 ++ ['\n']

end Spec

end Scaffold
