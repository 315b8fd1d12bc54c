/-! # Splitting and replacing

Texts as lists of characters, cut at separators, and occurrences of one text replaced by another.
-/

namespace Shorthand.Text

/-- The pieces between the characters that satisfy `p`, empty pieces included. -/
def splitWhere (p : Char → Bool) : List Char → List (List Char)
  | [] => [[]]
  | c :: s =>
    if p c then [] :: splitWhere p s
    else match splitWhere p s with
      | [] => [[c]]
      | piece :: pieces => (c :: piece) :: pieces

/-- The pieces between occurrences of `sep`. -/
def split (sep : Char) (s : List Char) : List (List Char) :=
  splitWhere (· == sep) s

/-- The part before the first `sep` and, if there is one, the part after it. -/
def splitOnce (sep : Char) (s : List Char) : List Char × Option (List Char) :=
  match s.dropWhile (· ≠ sep) with
  | [] => (s, none)
  | _ :: rest => (s.takeWhile (· ≠ sep), some rest)

/-- Replaces occurrences of a text from left to right; they do not overlap. -/
def replaceAll (old new : List Char) : List Char → List Char
  | [] => []
  | c :: s =>
    if old.isPrefixOf (c :: s) then new ++ replaceAll old new (s.drop (old.length - 1))
    else c :: replaceAll old new s
termination_by s => s.length
decreasing_by all_goals simp; try omega

theorem splitWhere_ne_nil (p : Char → Bool) (s : List Char) : splitWhere p s ≠ [] := by
  cases s with
  | nil => simp [splitWhere]
  | cons c s => rw [splitWhere]; split <;> (try split) <;> simp

end Shorthand.Text
