import Shorthand.Proofs.Pattern
import Shorthand.Snippet.Source

/-! # Placeholder names

A name asks for placeholder text exactly when it spells `lorem`, letters and digits, which is also
when the pattern of placeholder names matches it. It gets the number of words that its digits
spell, up to the limit, if they are ASCII digits. Digits of other scripts ask for the limit.
-/

namespace Shorthand.Lorem

open Pattern Pattern.Expr

variable {c : Char} {letters digits : List Char} {name : String}

/-- The value of a decimal digit. The digits of a script stand in a row from zero to nine. -/
def digitValue (c : Char) : Nat :=
  (c.toNat - (Text.decimalDigit.bounds.takeWhile (· ≤ c.toNat)).getLastD 0) % 10

def number (digits : List Char) : Nat :=
  digits.foldl (fun n c => 10 * n + digitValue c) 0

/-- `lorem`, letters from a to z and decimal digits, the letters in any case. -/
def Spells (name : String) (letters digits : List Char) : Prop :=
  ∃ head, name.toList = head ++ letters ++ digits ∧ head.map Char.toLower = "lorem".toList ∧
    (∀ c ∈ letters, ∃ d ∈ caseVariants c, 'a' ≤ d ∧ d ≤ 'z') ∧ ∀ c ∈ digits, Text.isDigit c

theorem forall_ascii {P : Char → Prop} (h : ∀ n < 128, P (Char.ofNat n)) :
    ∀ c, c.toNat < 128 → P c := by
  intro c hc
  have hp := h c.toNat hc
  rwa [Char.ofNat_toNat] at hp

theorem lt_of_isDigit (h : c.isDigit) : c.toNat < 128 := by
  have hv : c.toNat ≤ 57 := by
    simp only [Char.isDigit, Bool.and_eq_true, decide_eq_true_eq, UInt32.le_iff_toNat_le] at h
    exact h.2
  omega

theorem ascii_digits : ∀ c : Char, c.toNat < 128 →
    (c.isAlpha → Text.isDigit c = false) ∧ (c.isDigit → digitValue c = c.toNat - '0'.toNat) :=
  forall_ascii (by decide +kernel)

theorem number_eq_digitsValue (h : digits.all Char.isDigit) :
    number digits = Text.digitsValue digits := by
  rw [number, Text.digitsValue]
  apply List.foldl_ext
  intro n c hc
  have hd : c.isDigit := List.all_eq_true.mp h c hc
  rw [(ascii_digits c (lt_of_isDigit hd)).2 hd]

theorem count_eq (h : digits ≠ []) : Lorem.count digits =
    if digits.all Char.isDigit then min (number digits) maxCount else maxCount := by
  rw [Lorem.count, Text.readNat?]
  cases ha : digits.all Char.isDigit with
  | true => simp [h, number_eq_digitsValue ha]
  | false => simp

theorem small_iff {d : Char} : ('a' ≤ d ∧ d ≤ 'z') ↔ d.isLower := by
  simp only [Char.isLower, Char.le_def, Bool.and_eq_true, decide_eq_true_eq]

theorem isLetter_iff : isLetter c ↔ ∃ d ∈ caseVariants c, 'a' ≤ d ∧ d ≤ 'z' := by
  simp only [small_iff]
  constructor
  · intro h
    simp only [isLetter, Bool.or_eq_true, beq_iff_eq] at h
    rcases h with (h | rfl) | rfl
    · exact ⟨c.toLower, mem_caseVariants_toLower h, by rwa [Char.isLower_toLower_eq_isAlpha]⟩
    · exact ⟨'s', (mem_caseVariants_iff rfl).mpr (Or.inr (Or.inl ⟨rfl, rfl⟩)), rfl⟩
    · exact ⟨'k', (mem_caseVariants_iff rfl).mpr (Or.inr (Or.inr ⟨rfl, rfl⟩)), rfl⟩
  · rintro ⟨d, hm, hd⟩
    rcases (mem_caseVariants_iff hd).mp hm with rfl | ⟨rfl, _⟩ | ⟨rfl, _⟩
    · rw [Char.isLower_toLower_eq_isAlpha] at hd
      simp [isLetter, hd]
    · rfl
    · rfl

theorem isDigit_of_isLetter (h : isLetter c) : Text.isDigit c = false := by
  simp only [isLetter, Bool.or_eq_true, beq_iff_eq] at h
  rcases h with (h | rfl) | rfl
  · exact (ascii_digits c (lt_of_isAlpha h)).1 h
  · rfl
  · rfl

theorem takeWhile_isLetter (hd : ∀ c ∈ digits, Text.isDigit c) :
    digits.takeWhile isLetter = [] ∧ digits.dropWhile isLetter = digits := by
  cases digits with
  | nil => exact ⟨rfl, rfl⟩
  | cons c digits =>
    have hc : ¬ isLetter c := by
      intro h
      have hf := hd c List.mem_cons_self
      rw [isDigit_of_isLetter h] at hf
      cases hf
    exact ⟨List.takeWhile_cons_of_neg hc, List.dropWhile_cons_of_neg hc⟩

theorem parts?_eq_some_iff : parts? name = some (letters, digits) ↔ Spells name letters digits := by
  simp only [Spells, ← isLetter_iff]
  constructor
  · intro h
    simp only [parts?, Option.ite_none_right_eq_some, Option.some.injEq, Prod.mk.injEq] at h
    obtain ⟨⟨hhead, hdigits⟩, rfl, rfl⟩ := h
    refine ⟨name.toList.take 5, ?_, hhead, ?_, List.all_eq_true.mp hdigits⟩
    · rw [List.append_assoc, List.takeWhile_append_dropWhile, List.take_append_drop]
    · exact List.all_eq_true.mp List.all_takeWhile
  · rintro ⟨head, hs, hhead, hletters, hdigits⟩
    have hlen : head.length = 5 := by simpa using congrArg List.length hhead
    have htake : name.toList.take 5 = head := by
      rw [hs, List.append_assoc, List.take_left' hlen]
    have hdrop : name.toList.drop 5 = letters ++ digits := by
      rw [hs, List.append_assoc, List.drop_left' hlen]
    obtain ⟨hnone, hall⟩ := takeWhile_isLetter hdigits
    simp only [parts?, htake, hdrop, List.takeWhile_append_of_pos hletters,
      List.dropWhile_append_of_pos hletters, hnone, hall, List.append_nil]
    exact if_pos ⟨hhead, List.all_eq_true.mpr hdigits⟩

def word (cs : List Char) (e : Expr) : Expr :=
  cs.foldr (fun c e => .seq (.oneOf [.char c] true) e) e

def tail : Expr :=
  .seq (.seq (.star (.oneOf [.range 'a' 'z'] true)) .blank)
    (.seq (.seq (.star (.oneOf [.digit] false)) .blank) (.seq .finish .blank))

theorem expr?_loremPattern :
    SnippetSource.loremPattern.expr? = some (.seq .start (word ['l', 'o', 'r', 'e', 'm'] tail)) := by
  rfl

theorem accepts_letter (c : Char) : accepts [.range 'a' 'z'] true c = isLetter c := by
  rw [Bool.eq_iff_iff, isLetter_iff]
  simp [accepts, Atom.test]

theorem accepts_digit (c : Char) : accepts [.digit] false c = Text.isDigit c := by
  simp [accepts, Atom.test]

theorem accepts_char {x : Char} (hx : x.isLower ∧ x ≠ 's' ∧ x ≠ 'k') (c : Char) :
    accepts [.char x] true c ↔ c.toLower = x := by
  have hm : accepts [.char x] true c ↔ x ∈ caseVariants c := by
    simp [accepts, Atom.test]
  simp [hm, mem_caseVariants_iff hx.1, hx.2]

theorem matchesHere_tail (s : List Char) :
    tail.matchesHere false s = (s.dropWhile isLetter).all Text.isDigit := by
  have hletter : accepts [.range 'a' 'z'] true = isLetter := funext accepts_letter
  have hdigit : accepts [.digit] false = Text.isDigit := funext accepts_digit
  have hfinish (s : List Char) : (seq finish blank).matchesHere false s = s.isEmpty := by
    cases s with
    | nil => rfl
    | cons c s => rw [matchesHere_cons, derive_seq]; simp [nullable, derive]
  have hdigits (s : List Char) : (seq (seq (star (oneOf [.digit] false)) blank)
      (seq finish blank)).matchesHere false s = s.all Text.isDigit := by
    rw [matchesHere_star_oneOf, hfinish, hdigit]
    · rw [Bool.eq_iff_iff, List.isEmpty_iff, List.dropWhile_eq_nil_iff, List.all_eq_true]
    · rintro ⟨⟩
    · rfl
    · exact fun c _ => rfl
  rw [tail, matchesHere_star_oneOf, hdigits, hletter]
  · rintro ⟨⟩
  · rfl
  · intro c hc
    rw [hletter] at hc
    rw [derive_seq, derive_seq, derive_star, derive_oneOf, hdigit, isDigit_of_isLetter hc]
    rfl

theorem matchesHere_word {cs : List Char} (hcs : ∀ x ∈ cs, x.isLower ∧ x ≠ 's' ∧ x ≠ 'k')
    (e : Expr) (s : List Char) : (word cs e).matchesHere false s ↔
      (s.take cs.length).map Char.toLower = cs ∧ e.matchesHere false (s.drop cs.length) := by
  induction cs generalizing s with
  | nil => simp [word]
  | cons x cs ih =>
    obtain ⟨hx, hcs⟩ := List.forall_mem_cons.mp hcs
    change (seq (oneOf [.char x] true) (word cs e)).matchesHere false s ↔ _
    cases s with
    | nil => simp [matchesHere_seq_oneOf_nil]
    | cons c s =>
      rw [matchesHere_seq_oneOf, Bool.and_eq_true, accepts_char hx, ih hcs]
      simp [and_assoc]

/-- The pattern of placeholder names matches exactly the names that ask for a text. -/
theorem isMatch_loremPattern (name : String) :
    SnippetSource.loremPattern.isMatch name = (request? name).isSome := by
  have hstart (x : Char) (e : Expr) (s : List Char) :
      (seq (oneOf [.char x] true) e).matchesHere true s =
        (seq (oneOf [.char x] true) e).matchesHere false s := by
    cases s with
    | nil => rw [matchesHere_seq_oneOf_nil, matchesHere_seq_oneOf_nil]
    | cons c s => rw [matchesHere_seq_oneOf, matchesHere_seq_oneOf]
  have hword : (word ['l', 'o', 'r', 'e', 'm'] tail).matchesHere true name.toList =
      (word ['l', 'o', 'r', 'e', 'm'] tail).matchesHere false name.toList := hstart 'l' _ _
  have hletters : ∀ x ∈ ['l', 'o', 'r', 'e', 'm'], x.isLower ∧ x ≠ 's' ∧ x ≠ 'k' := by
    simp [Char.isLower]
  rw [Pattern.isMatch, expr?_loremPattern, Option.any_some, matchesIn_seq_start, hword,
    Bool.eq_iff_iff, matchesHere_word hletters, matchesHere_tail, request?, Option.isSome_map,
    parts?]
  simp

theorem request?_eq (name : String) : request? name = (parts? name).map fun (letters, digits) => {
    vocabulary := if letters = [] then "latin" else .ofList (letters.map Char.toLower)
    count := if digits = [] then 30
      else if digits.all Char.isDigit then min (number digits) 10000 else 10000 } := by
  rw [request?]
  congr 1
  funext ⟨letters, digits⟩
  simp only [List.isEmpty_iff, Request.mk.injEq]
  refine ⟨rfl, ?_⟩
  by_cases hd : digits = []
  · rw [if_pos hd, if_pos hd]; rfl
  · rw [if_neg hd, if_neg hd]
    exact count_eq hd

/--
A name asks for a text exactly when it spells `lorem`, letters and digits, which is when the pattern
of placeholder names matches it. The letters name the vocabulary, and the digits the number of words
up to the limit. Digits outside ASCII ask for the limit whatever number they denote.
-/
theorem request?_eq_some_iff_spells (name : String) :
    (∀ r, request? name = some r ↔ ∃ letters digits, Spells name letters digits ∧
      r.vocabulary = (if letters = [] then "latin" else .ofList (letters.map Char.toLower)) ∧
      r.count = (if digits = [] then 30
        else if digits.all Char.isDigit then min (number digits) 10000 else 10000)) ∧
    (SnippetSource.loremPattern.isMatch name ↔
      ∃ letters digits, Spells name letters digits) := by
  constructor
  · intro r
    rw [request?_eq, Option.map_eq_some_iff]
    constructor
    · rintro ⟨⟨letters, digits⟩, hp, rfl⟩
      exact ⟨letters, digits, parts?_eq_some_iff.mp hp, rfl, rfl⟩
    · rintro ⟨letters, digits, hs, hv, hc⟩
      refine ⟨(letters, digits), parts?_eq_some_iff.mpr hs, ?_⟩
      dsimp only
      rw [← hv, ← hc]
  · rw [isMatch_loremPattern, request?, Option.isSome_map, Option.isSome_iff_exists]
    simp only [Prod.exists, parts?_eq_some_iff]

/-- The digit stands for three words, and the name asks for ten thousand. -/
theorem request?_arabic_digit :
    Spells "lorem٣" [] ['٣'] ∧ min (number ['٣']) 10000 = 3 ∧
      (request? "lorem٣").map (·.count) = some 10000 := by
  have hs : parts? "lorem٣" = some ([], ['٣']) := by rfl
  exact ⟨parts?_eq_some_iff.mp hs, by rfl, by rfl⟩

end Shorthand.Lorem
