import Scaffold.Interview.Basic
import Scaffold.Proofs.Spec.Validity

/-!
This module contains what a single answer does to an interview. `Accepts` lists the moves from one
question to the next together with what was read from the answer, and `feed_eq_ok_iff` says that
feeding an answer makes exactly these moves. `Refuses` lists why an answer is refused.
-/

namespace Scaffold

namespace Interview

theorem isValid_defaultFields : defaultFields.IsValid := by
  constructor
  . decide
  . decide

theorem isIdentifier_of_readName {k : Kind} {answer n : Text} (h : readName k answer = .ok n)
    : n.isIdentifier = true := by
  unfold readName at h
  dsimp only at h
  generalize (if answer.isEmpty then defaultName k else answer) = name at h
  split at h
  . next hname =>
    cases h
    exact hname
  . simp at h

theorem readName_self {n : Text} (hn : n.isIdentifier = true) (k : Kind)
    : readName k n = .ok n := by
  have hne : n.isEmpty = false := by simpa using (Text.isWord_of_isIdentifier hn).1
  simp [readName, hne, hn]

theorem isValid_of_readFields {suggested fs : FieldList} {answer : Text}
    (hs : suggested.IsValid) (h : readFields suggested answer = .ok fs)
    : fs.IsValid := by
  unfold readFields at h
  split at h
  . cases h
    exact hs
  . rw [Except.mapError_eq_ok_iff] at h
    apply FieldList.isValid_of_parse h

theorem readFields_signature {fs : FieldList} (hfs : fs.IsValid) (suggested : FieldList)
    : readFields suggested fs.signature = .ok fs := by
  have hparse := FieldList.parse_signature hfs
  have hne : fs.signature.isEmpty = false := by
    cases hs : fs.signature with
    | nil =>
      rw [hs] at hparse
      simp [FieldList.parse, Text.isBlank] at hparse
    | cons c s => rfl
  unfold readFields
  rw [hne, hparse]
  rfl

theorem isBaseName_of_readBase {own answer : Text} {b : Option Text}
    (h : readBase own answer = .ok b)
    : ∀ base ∈ b, isBaseName own base = true := by
  unfold readBase at h
  split at h
  . cases h
    simp
  . split at h
    . next hbase =>
      cases h
      simpa using hbase
    . simp at h

theorem readBase_self {own : Text} {b : Option Text} (h : ∀ base ∈ b, isBaseName own base = true)
    : readBase own (b.getD []) = .ok b := by
  cases b with
  | none => rfl
  | some base =>
    have hbase := h base rfl
    have hword := Text.isWord_of_isIdentifier (isIdentifier_of_isBaseName hbase)
    have hne : base.isEmpty = false := by simpa using hword.1
    simp [readBase, hne, hbase]

theorem isWord_toDigits (n : Nat) : Text.IsWord (Nat.toDigits 10 n) := by
  constructor
  . apply Nat.toDigits_ne_nil
  . intro c hc
    apply isSpace_of_continuesIdentifier
    have := Nat.isDigit_of_mem_toDigits (by omega) (by omega) hc
    simp [continuesIdentifier, Char.isAlphanum, this]

theorem readCount_toDigits (n : UInt64) : readCount (Nat.toDigits 10 n.toNat) = .ok n := by
  have hdigit : ∀ c ∈ Nat.toDigits 10 n.toNat, c.isDigit = true := by
    intro c hc
    apply Nat.isDigit_of_mem_toDigits (by omega) (by omega) hc
  have hvalue : Nat.ofDigitChars 10 (Nat.toDigits 10 n.toNat) 0 = n.toNat :=
    Nat.ofDigitChars_ten_toDigits
  have hlt : n.toNat < UInt64.size := n.toNat_lt_size
  have hcount : count? (Nat.toDigits 10 n.toNat) = some n := by
    cases hds : Nat.toDigits 10 n.toNat with
    | nil => exact absurd hds Nat.toDigits_ne_nil
    | cons d ds =>
      rw [hds] at hdigit hvalue
      have hplus : d ≠ '+' := by
        intro heq
        subst heq
        exact absurd (hdigit '+' (by simp)) (by decide)
      have hall : (d :: ds).all Char.isDigit = true := by simpa using hdigit
      unfold count?
      split
      . next heq => exact absurd (List.cons.inj heq).1 hplus
      . dsimp only
        rw [hvalue, hall, decide_eq_true hlt, UInt64.ofNat_toNat]
        rfl
  unfold readCount
  rw [hcount]
  simp [Nat.toDigits_ne_nil]

namespace State

/--
The moves of an interview: `st.Accepts answer st'` if the trimmed answer leads from `st` to `st'`.
-/
inductive Accepts (answer : Text) : State → State → Prop where
  | kind {k : Kind} (h : readKind answer = .ok k) : Accepts answer .kind (.name k)
  | obligationName {n : Text} (h : readName .obligation answer = .ok n)
    : Accepts answer (.name .obligation) (.dataFields n)
  | arbiterName {n : Text} (h : readName .arbiter answer = .ok n)
    : Accepts answer (.name .arbiter) (.base n)
  | dataFields {n : Text} {fs : FieldList} (h : readFields defaultFields answer = .ok fs)
    : Accepts answer (.dataFields n) (.verification n fs)
  | verified {n : Text} {fs : FieldList} (h : readYesNo answer = .ok true)
    : Accepts answer (.verification n fs) (.obligationDemand n fs)
  | unverified {n : Text} {fs : FieldList} (h : readYesNo answer = .ok false)
    : Accepts answer (.verification n fs) (.revocable n fs none)
  | obligationDemand {n : Text} {fs demand : FieldList} (h : readFields fs answer = .ok demand)
    : Accepts answer (.obligationDemand n fs) (.revocable n fs (some demand))
  | revocable {n : Text} {fs : FieldList} {demand : Option FieldList}
      (h : readYesNo answer = .ok true)
    : Accepts answer (.revocable n fs demand) (.termCount n fs demand)
  | irrevocable {n : Text} {fs : FieldList} {demand : Option FieldList}
      (h : readYesNo answer = .ok false)
    : Accepts answer (.revocable n fs demand) (.done (obligation n fs demand none))
  | termCount {n : Text} {fs : FieldList} {demand : Option FieldList} {terms : UInt64}
      (h : readCount answer = .ok terms)
    : Accepts answer (.termCount n fs demand) (.done (obligation n fs demand (some terms)))
  | base {n : Text} {b : Option Text} (h : readBase n answer = .ok b)
    : Accepts answer (.base n) (.arbiterDemand n b)
  | arbiterDemand {n : Text} {b : Option Text} {demand : FieldList}
      (h : readFields defaultFields answer = .ok demand)
    : Accepts answer (.arbiterDemand n b) (.done (.arbiter ⟨n, b, demand⟩))

theorem accepts_of_feed {st st' : State} {line : Text} (h : st.feed line = .ok st')
    : Accepts line.trim st st' := by
  cases st with
  | kind =>
    rcases Except.bind_eq_ok_iff.1 h with ⟨k, hk, hst⟩
    cases hst
    exact .kind hk
  | name k =>
    rcases Except.bind_eq_ok_iff.1 h with ⟨n, hn, hst⟩
    cases k with
    | obligation =>
      cases hst
      exact .obligationName hn
    | arbiter =>
      cases hst
      exact .arbiterName hn
  | dataFields n =>
    rcases Except.bind_eq_ok_iff.1 h with ⟨fs, hfs, hst⟩
    cases hst
    exact .dataFields hfs
  | verification n fs =>
    rcases Except.bind_eq_ok_iff.1 h with ⟨yes, hyes, hst⟩
    cases yes with
    | true =>
      cases hst
      exact .verified hyes
    | false =>
      cases hst
      exact .unverified hyes
  | obligationDemand n fs =>
    rcases Except.bind_eq_ok_iff.1 h with ⟨demand, hdemand, hst⟩
    cases hst
    exact .obligationDemand hdemand
  | revocable n fs demand =>
    rcases Except.bind_eq_ok_iff.1 h with ⟨yes, hyes, hst⟩
    cases yes with
    | true =>
      cases hst
      exact .revocable hyes
    | false =>
      cases hst
      exact .irrevocable hyes
  | termCount n fs demand =>
    rcases Except.bind_eq_ok_iff.1 h with ⟨terms, hterms, hst⟩
    cases hst
    exact .termCount hterms
  | base n =>
    rcases Except.bind_eq_ok_iff.1 h with ⟨b, hb, hst⟩
    cases hst
    exact .base hb
  | arbiterDemand n b =>
    rcases Except.bind_eq_ok_iff.1 h with ⟨demand, hdemand, hst⟩
    cases hst
    exact .arbiterDemand hdemand
  | done spec => simp [feed] at h

theorem feed_eq_ok_iff {st st' : State} {line : Text}
    : st.feed line = .ok st' ↔ Accepts line.trim st st' := by
  constructor
  . exact accepts_of_feed
  . intro h
    unfold feed
    cases h with
    | _ h => simp only [h]; rfl

/--
The refusals of an interview: `st.Refuses answer refusal` if the trimmed answer is refused in `st`.
-/
inductive Refuses (answer : Text) : State → Refusal → Prop where
  | kind {r : Refusal} (h : readKind answer = .error r) : Refuses answer .kind r
  | name {k : Kind} {r : Refusal} (h : readName k answer = .error r) : Refuses answer (.name k) r
  | dataFields {n : Text} {r : Refusal} (h : readFields defaultFields answer = .error r)
    : Refuses answer (.dataFields n) r
  | verification {n : Text} {fs : FieldList} {r : Refusal} (h : readYesNo answer = .error r)
    : Refuses answer (.verification n fs) r
  | obligationDemand {n : Text} {fs : FieldList} {r : Refusal} (h : readFields fs answer = .error r)
    : Refuses answer (.obligationDemand n fs) r
  | revocable {n : Text} {fs : FieldList} {demand : Option FieldList} {r : Refusal}
      (h : readYesNo answer = .error r)
    : Refuses answer (.revocable n fs demand) r
  | termCount {n : Text} {fs : FieldList} {demand : Option FieldList} {r : Refusal}
      (h : readCount answer = .error r)
    : Refuses answer (.termCount n fs demand) r
  | base {n : Text} {r : Refusal} (h : readBase n answer = .error r) : Refuses answer (.base n) r
  | arbiterDemand {n : Text} {b : Option Text} {r : Refusal}
      (h : readFields defaultFields answer = .error r)
    : Refuses answer (.arbiterDemand n b) r
  | done {spec : Spec} : Refuses answer (.done spec) .finished

theorem refuses_of_feed {st : State} {line : Text} {r : Refusal} (h : st.feed line = .error r)
    : Refuses line.trim st r := by
  cases st with
  | kind =>
    rcases Except.bind_eq_error_iff.1 h with hr | ⟨k, -, hk⟩
    . exact .kind hr
    . cases hk
  | name k =>
    rcases Except.bind_eq_error_iff.1 h with hr | ⟨n, -, hn⟩
    . exact .name hr
    . cases k <;> cases hn
  | dataFields n =>
    rcases Except.bind_eq_error_iff.1 h with hr | ⟨fs, -, hfs⟩
    . exact .dataFields hr
    . cases hfs
  | verification n fs =>
    rcases Except.bind_eq_error_iff.1 h with hr | ⟨yes, -, hyes⟩
    . exact .verification hr
    . cases yes <;> cases hyes
  | obligationDemand n fs =>
    rcases Except.bind_eq_error_iff.1 h with hr | ⟨demand, -, hdemand⟩
    . exact .obligationDemand hr
    . cases hdemand
  | revocable n fs demand =>
    rcases Except.bind_eq_error_iff.1 h with hr | ⟨yes, -, hyes⟩
    . exact .revocable hr
    . cases yes <;> cases hyes
  | termCount n fs demand =>
    rcases Except.bind_eq_error_iff.1 h with hr | ⟨terms, -, hterms⟩
    . exact .termCount hr
    . cases hterms
  | base n =>
    rcases Except.bind_eq_error_iff.1 h with hr | ⟨b, -, hb⟩
    . exact .base hr
    . cases hb
  | arbiterDemand n b =>
    rcases Except.bind_eq_error_iff.1 h with hr | ⟨demand, -, hdemand⟩
    . exact .arbiterDemand hr
    . cases hdemand
  | done spec =>
    cases h
    exact .done

end State

end Interview

end Scaffold
