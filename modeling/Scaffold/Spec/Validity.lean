import Scaffold.Spec.Basic
import Scaffold.Field.List
import Scaffold.Solidity.Import

/-!
This module contains the check that a specification makes sense, which every specification has to
pass before a contract is composed from it.
-/

namespace Scaffold

inductive FieldsRole where
  | data
  | demand
  deriving DecidableEq, Repr

def FieldsRole.label : FieldsRole → Text
  | data => "data_fields"
  | demand => "demand_fields"

inductive SpecError where
  | emptyName
  | invalidName (name : Text)
  | noFields (role : FieldsRole)
  | missingDemand
  | invalidBase (name : Text)
  | fields (cause : FieldListError)
  deriving DecidableEq, Repr

namespace SpecError

def message : SpecError → Text
  | emptyName => "contract name is empty"
  | invalidName name => "contract name " ++ name.quoted ++ " is not a valid identifier"
  | noFields role => role.label ++ " must contain at least one field"
  | missingDemand => "verification requires demand fields"
  | invalidBase name =>
    "base obligation " ++ name.quoted ++ " is not an identifier or clashes with another name"
  | fields cause => "invalid field list: " ++ cause.message

end SpecError

def checkName (name : Text) : Except SpecError Unit :=
  if name.isBlank then .error .emptyName
  else if !name.isIdentifier then .error (.invalidName name)
  else .ok ()

def checkFields (role : FieldsRole) (fs : FieldList) : Except SpecError Unit :=
  if fs.isEmpty then .error (.noFields role)
  else (fs.check 0).mapError .fields

def isBaseName (own base : Text) : Bool :=
  base.isIdentifier && base ≠ own && !Solidity.Import.isTableName base

namespace Obligation

def validate (o : Obligation) : Except SpecError Unit := do
  checkName o.name
  checkFields .data o.dataFields
  if o.hasVerification then
    match o.demandFields with
    | none => .error .missingDemand
    | some demand => checkFields .demand demand

end Obligation

namespace Arbiter

/--
The base obligation, if there is one, must be told apart from the arbiter and from everything that
is imported from the framework.
-/
def validate (a : Arbiter) : Except SpecError Unit := do
  checkName a.name
  match a.base with
  | none => pure ()
  | some base => if !isBaseName a.name base then .error (.invalidBase base)
  checkFields .demand a.demandFields

end Arbiter

namespace Spec

def validate : Spec → Except SpecError Unit
  | obligation o => o.validate
  | arbiter a => a.validate

end Spec

end Scaffold
