import Scaffold.Proofs.Interview.Step

/-!
This module contains interviews as a whole: an invariant of every state that can be reached, the
specifications in which interviews end, and the answers that lead to a given specification. Together
they say that interviews collect exactly the specifications that make sense and carry nothing that
does not matter.
-/

namespace Scaffold

namespace Spec

/--
The specifications that carry nothing without effect: no demand fields without verification, and no
ways to end an obligation that cannot be revoked.
-/
def IsCanonical : Spec → Prop
  | obligation o =>
    (o.hasVerification = false → o.demandFields = none) ∧
      (o.isRevocable = false → o.termCount = 0)
  | arbiter _ => True

end Spec

namespace Interview

namespace State

def answer (st : State) (line : Text) : State :=
  match st.feed line with
  | .ok st' => st'
  | .error _ => st

def run (st : State) (lines : List Text) : State :=
  lines.foldl answer st

theorem answer_of_ok {st st' : State} {line : Text} (h : st.feed line = .ok st')
    : st.answer line = st' := by
  unfold answer
  rw [h]

theorem answer_of_error {st : State} {line : Text} {refusal : Refusal}
    (h : st.feed line = .error refusal)
    : st.answer line = st := by
  unfold answer
  rw [h]

theorem run_cons (st : State) (answer : Text) (answers : List Text)
    : st.run (answer :: answers) = (st.answer answer).run answers := rfl

theorem run_invariant {P : State → Prop}
    (hfeed : ∀ {st st' : State} {line : Text}, st.feed line = .ok st' → P st → P st')
    {st : State} (hst : P st) (lines : List Text)
    : P (st.run lines) := by
  unfold run
  induction lines generalizing st with
  | nil => exact hst
  | cons line lines ih =>
    rw [List.foldl_cons]
    apply ih
    unfold answer
    split
    . next st' hst' => exact hfeed hst' hst
    . exact hst

/--
Everything that the answers have told so far makes sense, and a specification is finished only if it
does as a whole.
-/
def IsSound : State → Prop
  | kind => True
  | name _ => True
  | dataFields n => n.isIdentifier = true
  | verification n fs => n.isIdentifier = true ∧ fs.IsValid
  | obligationDemand n fs => n.isIdentifier = true ∧ fs.IsValid
  | revocable n fs demand => n.isIdentifier = true ∧ fs.IsValid ∧ ∀ d ∈ demand, d.IsValid
  | termCount n fs demand => n.isIdentifier = true ∧ fs.IsValid ∧ ∀ d ∈ demand, d.IsValid
  | base n => n.isIdentifier = true
  | arbiterDemand n b => n.isIdentifier = true ∧ ∀ base ∈ b, isBaseName n base = true
  | done spec => spec.validate = .ok () ∧ spec.IsCanonical

theorem isSound_start (k : Option Kind) : (start k).IsSound := by
  cases k <;> trivial

theorem isSound_obligation {n : Text} {fs : FieldList} {demand : Option FieldList}
    (terms : Option UInt64) (hn : n.isIdentifier = true) (hfs : fs.IsValid)
    (hdemand : ∀ d ∈ demand, d.IsValid)
    : (done (obligation n fs demand terms)).IsSound := by
  constructor
  . apply Obligation.validate_eq_ok_iff.2
    refine ⟨hn, hfs, ?_⟩
    intro h
    rcases Option.isSome_iff_exists.1 h with ⟨d, hd⟩
    exact ⟨d, hd, hdemand d hd⟩
  . cases demand <;> cases terms <;> simp [Spec.IsCanonical, obligation]

theorem isSound_of_feed {st st' : State} {line : Text} (hfeed : st.feed line = .ok st')
    (hst : st.IsSound)
    : st'.IsSound := by
  cases accepts_of_feed hfeed with
  | kind => trivial
  | obligationName h => exact isIdentifier_of_readName h
  | arbiterName h => exact isIdentifier_of_readName h
  | dataFields h => exact ⟨hst, isValid_of_readFields isValid_defaultFields h⟩
  | verified => exact hst
  | unverified => exact ⟨hst.1, hst.2, by simp⟩
  | obligationDemand h =>
    refine ⟨hst.1, hst.2, ?_⟩
    intro d hd
    cases hd
    apply isValid_of_readFields hst.2 h
  | revocable => exact hst
  | irrevocable => exact isSound_obligation none hst.1 hst.2.1 hst.2.2
  | @termCount n fs demand terms =>
    apply isSound_obligation (some terms) hst.1 hst.2.1 hst.2.2
  | base h => exact ⟨hst, isBaseName_of_readBase h⟩
  | arbiterDemand h =>
    refine ⟨?_, trivial⟩
    apply Arbiter.validate_eq_ok_iff.2
    exact ⟨hst.1, hst.2, isValid_of_readFields isValid_defaultFields h⟩

def kind? : State → Option Kind
  | kind => none
  | name k => some k
  | dataFields _ => some .obligation
  | verification _ _ => some .obligation
  | obligationDemand _ _ => some .obligation
  | revocable _ _ _ => some .obligation
  | termCount _ _ _ => some .obligation
  | base _ => some .arbiter
  | arbiterDemand _ _ => some .arbiter
  | done spec => some spec.kind

theorem kind?_start (k : Option Kind) : (start k).kind? = k := by
  cases k <;> rfl

theorem kind?_of_feed {k : Kind} {st st' : State} {line : Text} (h : st.feed line = .ok st')
    (hst : st.kind? = some k)
    : st'.kind? = some k := by
  cases accepts_of_feed h with
  | kind => simp [kind?] at hst
  | _ => exact hst

theorem step_eq_done_iff {st : State} : st.step = .done ↔ ∃ spec, st = done spec := by
  cases st <;> simp [step]

end State

def yesNo (b : Bool) : Text :=
  if b then "y" else "n"

def answersFor : Spec → List Text
  | .obligation o =>
    [['o'], o.name, o.dataFields.signature, yesNo o.hasVerification] ++
    o.demandFields.toList.map FieldList.signature ++
    [yesNo o.isRevocable] ++
    (if o.isRevocable then [Nat.toDigits 10 o.termCount.toNat] else [])
  | .arbiter a => [['a'], a.name, a.base.getD [], a.demandFields.signature]

theorem readYesNo_yesNo (b : Bool) : readYesNo (yesNo b) = .ok b := by
  cases b <;> rfl

theorem trim_yesNo (b : Bool) : (yesNo b).trim = yesNo b := by
  cases b <;> decide

theorem feed_of_trim {st st' : State} {line : Text} (htrim : line.trim = line)
    (h : st.Accepts line st')
    : st.feed line = .ok st' := by
  rw [State.feed_eq_ok_iff, htrim]
  exact h

theorem foldlM_feed_cons {st st' : State} {line : Text} (h : st.feed line = .ok st')
    (lines : List Text)
    : (line :: lines).foldlM State.feed st = lines.foldlM State.feed st' := by
  rw [List.foldlM_cons, h]
  rfl

theorem foldlM_feed_revocable {n : Text} {fs : FieldList} {demand : Option FieldList}
    {isRevocable : Bool} {terms : UInt64} (hterms : isRevocable = false → terms = 0)
    : (yesNo isRevocable :: if isRevocable then [Nat.toDigits 10 terms.toNat] else []).foldlM
          State.feed (.revocable n fs demand) =
        .ok (.done (.obligation ⟨n, demand.isSome, isRevocable, terms, fs, demand⟩)) := by
  cases isRevocable with
  | false =>
    rw [foldlM_feed_cons (feed_of_trim (trim_yesNo false) (.irrevocable (readYesNo_yesNo false)))]
    rw [hterms rfl]
    rfl
  | true =>
    have htrim := Text.trim_eq_self_of_isWord (isWord_toDigits terms.toNat)
    rw [foldlM_feed_cons (feed_of_trim (trim_yesNo true) (.revocable (readYesNo_yesNo true)))]
    rw [if_pos rfl]
    rw [foldlM_feed_cons (feed_of_trim htrim (.termCount (readCount_toDigits terms)))]
    rfl

theorem foldlM_feed_obligation {o : Obligation} (ho : o.IsValid)
    (hcanon : (Spec.obligation o).IsCanonical)
    : (answersFor (.obligation o)).foldlM State.feed (start none) =
        .ok (.done (.obligation o)) := by
  rcases o with ⟨n, hasVerification, isRevocable, terms, fs, demand⟩
  rcases ho with ⟨hn, hfs, hdemand⟩
  rcases hcanon with ⟨hnone, hterms⟩
  have hkind : State.kind.feed ['o'] = .ok (.name .obligation) := rfl
  have hname := feed_of_trim (Text.trim_eq_self_of_isWord (Text.isWord_of_isIdentifier hn))
    (.obligationName (readName_self hn _))
  have hdata := feed_of_trim (FieldList.trim_signature hfs)
    (.dataFields (n := n) (readFields_signature hfs _))
  unfold answersFor start
  simp only [List.cons_append, List.nil_append]
  rw [foldlM_feed_cons hkind]
  rw [foldlM_feed_cons hname]
  rw [foldlM_feed_cons hdata]
  cases hasVerification with
  | false =>
    have heq : demand = none := hnone rfl
    subst heq
    rw [foldlM_feed_cons (feed_of_trim (trim_yesNo false) (.unverified (readYesNo_yesNo false)))]
    apply foldlM_feed_revocable hterms
  | true =>
    rcases hdemand rfl with ⟨d, rfl, hd⟩
    have hsig := feed_of_trim (FieldList.trim_signature hd)
      (.obligationDemand (n := n) (readFields_signature hd fs))
    rw [foldlM_feed_cons (feed_of_trim (trim_yesNo true) (.verified (readYesNo_yesNo true)))]
    simp only [Option.toList_some, List.map_cons, List.map_nil, List.cons_append, List.nil_append]
    rw [foldlM_feed_cons hsig]
    apply foldlM_feed_revocable hterms

theorem foldlM_feed_arbiter {a : Arbiter} (ha : a.IsValid)
    : (answersFor (.arbiter a)).foldlM State.feed (start none) = .ok (.done (.arbiter a)) := by
  rcases a with ⟨n, b, demand⟩
  rcases ha with ⟨hn, hb, hdemand⟩
  have htrim : Text.trim (b.getD []) = b.getD [] := by
    cases b with
    | none => rfl
    | some base =>
      apply Text.trim_eq_self_of_isWord
      apply Text.isWord_of_isIdentifier (isIdentifier_of_isBaseName (hb base rfl))
  have hkind : State.kind.feed ['a'] = .ok (.name .arbiter) := rfl
  have hname := feed_of_trim (Text.trim_eq_self_of_isWord (Text.isWord_of_isIdentifier hn))
    (.arbiterName (readName_self hn _))
  have hbase := feed_of_trim htrim (.base (readBase_self hb))
  have hsig := feed_of_trim (FieldList.trim_signature hdemand)
    (.arbiterDemand (n := n) (b := b) (readFields_signature hdemand _))
  unfold answersFor start
  rw [foldlM_feed_cons hkind]
  rw [foldlM_feed_cons hname]
  rw [foldlM_feed_cons hbase]
  rw [foldlM_feed_cons hsig]
  rfl

/--
Interviews collect exactly the specifications that make sense and are canonical. An interview that
is over has such a specification to show, of the kind that was asked for if one was; one that is not
over shows none. And each such specification is told by answers none of which is refused.
-/
theorem run_collects_valid_canonical
    : (∀ (k : Option Kind) (lines : List Text), ((start k).run lines).step = .done →
        ∃ spec, ((start k).run lines).finish = some spec ∧ spec.validate = .ok () ∧
          (∀ kind, k = some kind → spec.kind = kind) ∧ spec.IsCanonical) ∧
      (∀ (k : Option Kind) (lines : List Text), ((start k).run lines).step ≠ .done →
        ((start k).run lines).finish = none) ∧
      (∀ spec : Spec, spec.validate = .ok () → spec.IsCanonical →
        ∃ (lines : List Text) (st : State), lines.foldlM State.feed (start none) = .ok st ∧
          st.finish = some spec) := by
  refine ⟨?_, ?_, ?_⟩
  . intro k lines hdone
    rcases State.step_eq_done_iff.1 hdone with ⟨spec, hspec⟩
    have hsound := State.run_invariant State.isSound_of_feed (State.isSound_start k) lines
    rw [hspec] at hsound ⊢
    refine ⟨spec, rfl, hsound.1, ?_, hsound.2⟩
    rintro kind rfl
    have hkind := State.run_invariant State.kind?_of_feed (State.kind?_start (some kind)) lines
    rw [hspec] at hkind
    apply Option.some.inj hkind
  . intro k lines hdone
    cases hst : (start k).run lines with
    | done spec => simp [hst, State.step] at hdone
    | _ => rfl
  . intro spec hvalid hcanon
    refine ⟨answersFor spec, .done spec, ?_, rfl⟩
    cases spec with
    | obligation o => exact foldlM_feed_obligation (Obligation.validate_eq_ok_iff.1 hvalid) hcanon
    | arbiter a => exact foldlM_feed_arbiter (Arbiter.validate_eq_ok_iff.1 hvalid)

theorem run_collects_payment
    : (∃ spec, ((start none).run ["contract", "obligation", " ", "", "no", "n"]).finish =
          some spec ∧ spec.validate = .ok () ∧ spec.IsCanonical) ∧
      ((start (some .arbiter)).run ["1"]).finish = none ∧
      (∃ (lines : List Text) (st : State), lines.foldlM State.feed (start none) = .ok st ∧
        st.finish = some (.arbiter ⟨"PaymentArbiter", some "Payment", defaultFields⟩)) := by
  rcases run_collects_valid_canonical with ⟨hdone, hopen, htold⟩
  refine ⟨?_, ?_, ?_⟩
  . rcases hdone none ["contract", "obligation", " ", "", "no", "n"] (by decide) with
      ⟨spec, hspec, hvalid, -, hcanon⟩
    exact ⟨spec, hspec, hvalid, hcanon⟩
  . apply hopen (some .arbiter) ["1"] (by decide)
  . exact htold _ (by decide) trivial

end Interview

end Scaffold
