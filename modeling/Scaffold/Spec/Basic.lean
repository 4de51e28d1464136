import Scaffold.Field.Basic

/-!
This module contains the specifications from which contracts are composed.
-/

namespace Scaffold

/--
The two kinds of contract: an obligation records that something was done, an arbiter judges whether
an obligation meets a demand.
-/
inductive Kind where
  | obligation
  | arbiter
  deriving DecidableEq, Repr

structure Obligation where
  name : Text
  hasVerification : Bool
  isRevocable : Bool
  termCount : UInt64
  dataFields : FieldList
  /-- What a demand is made of; it matters for a contract with verification only. -/
  demandFields : Option FieldList
  deriving DecidableEq, Repr

namespace Obligation

/--
The number of methods that end an obligation. One that cannot be revoked has none, whatever count it
carries.
-/
def terms (o : Obligation) : Nat :=
  if o.isRevocable then o.termCount.toNat else 0

end Obligation

structure Arbiter where
  name : Text
  base : Option Text
  demandFields : FieldList
  deriving DecidableEq, Repr

inductive Spec where
  | obligation (o : Obligation)
  | arbiter (a : Arbiter)
  deriving DecidableEq, Repr

namespace Spec

def kind : Spec → Kind
  | obligation _ => .obligation
  | arbiter _ => .arbiter

def name : Spec → Text
  | obligation o => o.name
  | arbiter a => a.name

end Spec

end Scaffold
