/-!
This module contains the type of texts and the ways to cut a text up and to put it together again
that do not depend on a character class.
-/

namespace Scaffold

/--
A text is the list of its characters. Literals are written as strings and turned into texts by the
coercion below, so that every function on texts is a function on lists.
-/
abbrev Text := List Char

abbrev Bytes := List UInt8

instance : Coe String Text where
  coe s := s.toList

namespace Text

/--
Put a character in front of the first text of a list; in front of no text it is a text of its own.
-/
def consHead (c : Char) : List Text → List Text
  | [] => [[c]]
  | t :: ts => (c :: t) :: ts

/--
Cut a text at every character that satisfies `p`. The cut characters are dropped, and there is
always one piece more than there are cuts.
-/
def splitWhen (p : Char → Bool) : Text → List Text
  | [] => [[]]
  | c :: s => if p c then [] :: splitWhen p s else consHead c (splitWhen p s)

def join (sep : Text) (ts : List Text) : Text :=
  sep.intercalate ts

def unlines (ts : List Text) : Text :=
  ts.flatMap (· ++ ['\n'])

@[simp]
theorem splitWhen_nil (p : Char → Bool) : splitWhen p [] = [[]] := rfl

theorem splitWhen_ne_nil (p : Char → Bool) (s : Text) : splitWhen p s ≠ [] := by
  cases s with
  | nil => simp
  | cons c s =>
    simp only [splitWhen]
    split
    . simp
    . cases splitWhen p s <;> simp [consHead]

@[simp]
theorem unlines_nil : unlines [] = [] := rfl

@[simp]
theorem unlines_cons (t : Text) (ts : List Text)
    : unlines (t :: ts) = t ++ '\n' :: unlines ts := by
  simp [unlines]

@[simp]
theorem unlines_append (ts us : List Text) : unlines (ts ++ us) = unlines ts ++ unlines us := by
  simp [unlines]

end Text

end Scaffold
