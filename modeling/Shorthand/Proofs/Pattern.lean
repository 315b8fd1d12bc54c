import Mathlib
import Shorthand.Pattern.Expr

/-! # Laws of expressions

How sequences of letters, repeated classes and anchors match, and which characters count as a case
of a letter: besides its two ASCII forms only the long s and the Kelvin sign do.
-/

namespace Shorthand.Pattern

open Text

section Case

variable {c d : Char} {spans : List CaseSpan} {sequences : List (Nat × List Nat)}

theorem isAlpha_eq_false_of_le (h : 128 ≤ c.toNat) : c.isAlpha = false := by
  have hv : 128 ≤ c.val.toNat := h
  simp only [Char.isAlpha, Char.isUpper, Char.isLower, UInt32.le_iff_toNat_le, ge_iff_le]
  simp
  omega

theorem lt_of_isAlpha (h : c.isAlpha) : c.toNat < 128 := by
  by_contra hc
  rw [isAlpha_eq_false_of_le (by omega)] at h
  cases h

theorem isAlpha_ofNat_eq_false {n : Nat} (h : 128 ≤ n) : (Char.ofNat n).isAlpha = false := by
  by_cases hn : n.isValidChar
  · apply isAlpha_eq_false_of_le
    rwa [Char.toNat_ofNat, if_pos hn]
  · have hzero : Char.ofNat n = Char.ofNat 0 := by
      rw [Char.ofNat, dif_neg hn]; rfl
    rw [hzero]; rfl

theorem isAlpha_of_isLower (h : c.isLower) : c.isAlpha := by
  rw [Char.isAlpha, h, Bool.or_true]

def single (f : Char → List Char) (c : Char) : Char :=
  match f c with
  | [d] => d
  | _ => c

theorem caseVariants_eq (h : c ≠ 'ı') : caseVariants c =
    [c, single lowerChar c, single upperChar c, single lowerChar (single upperChar c),
      single upperChar (single lowerChar c)] := by
  rw [caseVariants, if_neg h]; rfl

theorem single_lowerChar_of_lt (h : c.toNat < 128) : single lowerChar c = c.toLower := by
  rw [single, lowerChar, if_pos h]

theorem single_upperChar_of_lt (h : c.toNat < 128) : single upperChar c = c.toUpper := by
  rw [single, upperChar, if_pos h]

theorem single_lowerChar_of_le (h : 128 ≤ c.toNat) :
    single lowerChar c = single (caseMap lowerSpans lowerSequences) c := by
  rw [single, lowerChar, if_neg (by omega)]; rfl

theorem single_upperChar_of_le (h : 128 ≤ c.toNat) :
    single upperChar c = single (caseMap upperSpans upperSequences) c := by
  rw [single, upperChar, if_neg (by omega)]; rfl

theorem single_caseMap_cases (spans : List CaseSpan) (hs : ∀ e ∈ sequences, e.2.length ≠ 1)
    (c : Char) :
    single (caseMap spans sequences) c = c ∨
      ∃ s ∈ spans, s.first ≤ c.toNat ∧ c.toNat ≤ s.last ∧
        single (caseMap spans sequences) c = Char.ofNat (s.target + (c.toNat - s.first)) := by
  rw [single, caseMap]
  cases hf : spans.findSome? (·.map? c.toNat) with
  | some n =>
    right
    obtain ⟨s, hm, hn⟩ := List.exists_of_findSome?_eq_some hf
    rw [CaseSpan.map?] at hn
    split at hn
    · rename_i hspan
      exact ⟨s, hm, hspan.1, hspan.2.1, congrArg Char.ofNat (Option.some.inj hn).symm⟩
    · cases hn
  | none =>
    left
    cases hl : sequences.lookup c.toNat with
    | none => rfl
    | some ns =>
      obtain ⟨before, after, he, -⟩ := List.lookup_eq_some_iff.mp hl
      have hlen : (ns.map Char.ofNat).length ≠ 1 := by
        rw [List.length_map]
        exact hs (c.toNat, ns) (by simp [he])
      split
      · rename_i hd; exact absurd (congrArg List.length hd) hlen
      · rfl

/-- No sequence is a single character, and only the exceptions lead from outside ASCII into it. -/
def Regular (spans : List CaseSpan) (sequences : List (Nat × List Nat)) (exceptions : List Nat) :
    Prop :=
  (∀ e ∈ sequences, e.2.length ≠ 1) ∧
    ∀ s ∈ spans, s.last < 128 ∨ 128 ≤ s.target ∨ (s.first = s.last ∧ s.first ∈ exceptions)

theorem regular_lower : Regular lowerSpans lowerSequences [0x212a] := by
  unfold Regular; decide +kernel

theorem regular_upper : Regular upperSpans upperSequences [0x17f, 0x131] := by
  unfold Regular; decide +kernel

/-- The code points outside ASCII with a case in ASCII, and the Kelvin sign as no capital. -/
theorem case_exceptions :
    (single lowerChar '\u212a' = 'k' ∧ single upperChar 'ſ' = 'S' ∧ single upperChar 'ı' = 'I') ∧
      ∀ s ∈ upperSpans, s.target + (s.last - s.first) < 0x212a ∨ 0x212a < s.target := by
  decide +kernel

theorem isAlpha_single_caseMap {exceptions : List Nat} (ht : Regular spans sequences exceptions)
    (hc : 128 ≤ c.toNat) (h : (single (caseMap spans sequences) c).isAlpha) :
    c.toNat ∈ exceptions := by
  rcases single_caseMap_cases spans ht.1 c with he | ⟨s, hm, hfirst, hlast, he⟩
  · rw [he, isAlpha_eq_false_of_le hc] at h; cases h
  · rcases ht.2 s hm with hlt | hle | ⟨hone, hx⟩
    · omega
    · rw [he, isAlpha_ofNat_eq_false (by omega)] at h; cases h
    · have hfc : c.toNat = s.first := by omega
      rwa [hfc]

theorem isAlpha_of_isAlpha_single_lowerChar (h : (single lowerChar c).isAlpha) :
    c.isAlpha ∨ c = '\u212a' := by
  rcases Nat.lt_or_ge c.toNat 128 with hc | hc
  · rw [single_lowerChar_of_lt hc, Char.isAlpha_toLower_eq_isAlpha] at h
    exact Or.inl h
  · rw [single_lowerChar_of_le hc] at h
    have hm : c.toNat ∈ [0x212a] := isAlpha_single_caseMap regular_lower hc h
    rw [List.mem_singleton] at hm
    exact Or.inr (Char.toNat_inj.mp hm)

theorem isAlpha_of_isAlpha_single_upperChar (h : (single upperChar c).isAlpha) :
    c.isAlpha ∨ c = 'ſ' ∨ c = 'ı' := by
  rcases Nat.lt_or_ge c.toNat 128 with hc | hc
  · rw [single_upperChar_of_lt hc, Char.isAlpha_toUpper_eq_isAlpha] at h
    exact Or.inl h
  · rw [single_upperChar_of_le hc] at h
    have hm : c.toNat ∈ [0x17f, 0x131] := isAlpha_single_caseMap regular_upper hc h
    simp only [List.mem_cons, List.not_mem_nil, or_false] at hm
    exact Or.inr (hm.imp Char.toNat_inj.mp Char.toNat_inj.mp)

theorem isLower_single_upperChar (c : Char) : (single upperChar c).isLower = false := by
  rcases Nat.lt_or_ge c.toNat 128 with hc | hc
  · rw [single_upperChar_of_lt hc, Char.isLower_toUpper_eq_false]
  · by_contra h
    have hlow : (single upperChar c).isLower := by simpa using h
    rcases isAlpha_of_isAlpha_single_upperChar (isAlpha_of_isLower hlow) with ha | rfl | rfl
    · rw [isAlpha_eq_false_of_le hc] at ha; cases ha
    · rw [case_exceptions.1.2.1] at hlow; cases hlow
    · rw [case_exceptions.1.2.2] at hlow; cases hlow

theorem eq_kelvin_of_single_upperChar (h : single upperChar c = '\u212a') : c = '\u212a' := by
  rcases Nat.lt_or_ge c.toNat 128 with hc | hc
  · rw [single_upperChar_of_lt hc] at h
    by_cases hl : c.isLower
    · have ha : ('\u212a' : Char).isAlpha := by
        rw [← h, Char.isAlpha_toUpper_eq_isAlpha]
        exact isAlpha_of_isLower hl
      cases ha
    · rwa [Char.toUpper_eq_of_not_isLower hl] at h
  · rw [single_upperChar_of_le hc] at h
    rcases single_caseMap_cases upperSpans regular_upper.1 c with he | ⟨s, hm, hfirst, hlast, he⟩
    · exact he.symm.trans h
    · have hn : (Char.ofNat (s.target + (c.toNat - s.first))).toNat = 0x212a := by
        rw [← he, h]; rfl
      rw [Char.toNat_ofNat] at hn
      split at hn
      · rcases case_exceptions.2 s hm with hbelow | habove <;> omega
      · cases hn

theorem mem_caseVariants_toLower (h : c.isAlpha) : c.toLower ∈ caseVariants c := by
  have hc : c.toNat < 128 := lt_of_isAlpha h
  have hi : c ≠ 'ı' := by rintro rfl; cases h
  rw [caseVariants_eq hi, single_lowerChar_of_lt hc]
  simp

/-- A small letter is a case of its two ASCII forms, `s` also of the long s and `k` of the Kelvin
sign. -/
theorem mem_caseVariants_iff (hd : d.isLower) :
    d ∈ caseVariants c ↔ c.toLower = d ∨ (c = 'ſ' ∧ d = 's') ∨ (c = '\u212a' ∧ d = 'k') := by
  constructor
  · intro h
    by_cases hi : c = 'ı'
    · subst hi
      have hdi : d = 'ı' := by simpa [caseVariants] using h
      subst hdi; cases hd
    · rw [caseVariants_eq hi] at h
      simp only [List.mem_cons, List.not_mem_nil, or_false] at h
      have hlow {x : Char} (hx : x.isAlpha) : single lowerChar x = x.toLower :=
        single_lowerChar_of_lt (lt_of_isAlpha hx)
      rcases h with rfl | rfl | rfl | rfl | rfl
      · left
        exact Char.toLower_eq_of_not_isUpper (Char.not_isUpper_of_isLower hd)
      · rcases isAlpha_of_isAlpha_single_lowerChar (isAlpha_of_isLower hd) with ha | rfl
        · exact Or.inl (hlow ha).symm
        · exact Or.inr (Or.inr ⟨rfl, case_exceptions.1.1⟩)
      · rw [isLower_single_upperChar] at hd; cases hd
      · rcases isAlpha_of_isAlpha_single_lowerChar (isAlpha_of_isLower hd) with ha | hk
        · rcases isAlpha_of_isAlpha_single_upperChar ha with hc | rfl | rfl
          · left
            rw [hlow ha, single_upperChar_of_lt (lt_of_isAlpha hc), Char.toLower_toUpper_eq_toLower]
          · exact Or.inr (Or.inl ⟨rfl, by rw [case_exceptions.1.2.1]; rfl⟩)
          · exact absurd rfl hi
        · obtain rfl := eq_kelvin_of_single_upperChar hk
          exact Or.inr (Or.inr ⟨rfl, by rw [hk, case_exceptions.1.1]⟩)
      · rw [isLower_single_upperChar] at hd; cases hd
  · rintro (rfl | ⟨rfl, rfl⟩ | ⟨rfl, rfl⟩)
    · rw [Char.isLower_toLower_eq_isAlpha] at hd
      exact mem_caseVariants_toLower hd
    · rw [caseVariants_eq (by decide), case_exceptions.1.2.1,
        single_lowerChar_of_lt (c := 'S') (by decide)]
      simp
    · rw [caseVariants_eq (by decide), case_exceptions.1.1]
      simp

end Case

namespace Expr

variable {atoms : List Atom} {anyCase atStart : Bool} {c : Char} {s : List Char} {a b e : Expr}

@[simp] theorem mkSeq_never (a : Expr) : mkSeq .never a = .never := by
  rw [mkSeq]

@[simp] theorem mkSeq_blank (a : Expr) : mkSeq .blank a = a := by
  cases a <;> rfl

@[simp] theorem mkAlt_never (a : Expr) : mkAlt a .never = a := by
  cases a <;> rfl

@[simp] theorem never_mkAlt (a : Expr) : mkAlt .never a = a := by
  rw [mkAlt]

@[simp] theorem matchesHere_never (atStart : Bool) (s : List Char) :
    never.matchesHere atStart s = false := by
  cases s <;> rfl

theorem matchesHere_nil (atStart : Bool) (e : Expr) :
    e.matchesHere atStart [] = e.nullable atStart true := by
  cases e <;> rfl

theorem matchesHere_cons (atStart : Bool) (e : Expr) (c : Char) (s : List Char) :
    e.matchesHere atStart (c :: s) =
      (e.nullable atStart false || (e.derive atStart c).matchesHere false s) := by
  cases e with
  | never => simp [nullable, derive]
  | _ => rfl

theorem derive_seq (atStart : Bool) (c : Char) (a b : Expr) :
    (seq a b).derive atStart c = mkAlt (mkSeq (a.derive atStart c) b)
      (if a.nullable atStart false then b.derive atStart c else .never) := by
  rw [derive]

theorem derive_star (atStart : Bool) (c : Char) (a : Expr) :
    (star a).derive atStart c = mkSeq (a.derive atStart c) (.star a) := by
  rw [derive]

def accepts (atoms : List Atom) (anyCase : Bool) (c : Char) : Bool :=
  (if anyCase then caseVariants c else [c]).any fun d => atoms.any (·.test d)

theorem derive_oneOf (atoms : List Atom) (anyCase atStart : Bool) (c : Char) :
    (oneOf atoms anyCase).derive atStart c =
      if accepts atoms anyCase c then .blank else .never :=
  rfl

theorem matchesHere_seq_oneOf (atStart : Bool) (c : Char) (s : List Char) :
    (seq (oneOf atoms anyCase) e).matchesHere atStart (c :: s) =
      (accepts atoms anyCase c && e.matchesHere false s) := by
  rw [matchesHere_cons, derive_seq, derive_oneOf]
  cases accepts atoms anyCase c <;> simp [nullable]

theorem matchesHere_seq_oneOf_nil (atStart : Bool) :
    (seq (oneOf atoms anyCase) e).matchesHere atStart [] = false := by
  rw [matchesHere_nil, nullable, nullable, Bool.false_and]

theorem matchesHere_seq_start (atStart : Bool) (s : List Char) :
    (seq start e).matchesHere atStart s = (atStart && e.matchesHere atStart s) := by
  cases s with
  | nil => rw [matchesHere_nil, matchesHere_nil, nullable, nullable]
  | cons c s =>
    have hs : start.derive atStart c = .never := rfl
    rw [matchesHere_cons, matchesHere_cons, derive_seq, hs]
    cases atStart <;> simp [nullable]

theorem matchesIn_seq_start (s : List Char) :
    (seq start e).matchesIn true s = e.matchesHere true s := by
  have hfalse : ∀ s, (seq start e).matchesIn false s = false := by
    intro s
    induction s with
    | nil => rw [matchesIn, matchesHere_seq_start, Bool.false_and]
    | cons c s ih => rw [matchesIn, matchesHere_seq_start, ih, Bool.false_and, Bool.or_false]
  cases s with
  | nil => rw [matchesIn, matchesHere_seq_start, Bool.true_and]
  | cons c s => rw [matchesIn, matchesHere_seq_start, hfalse, Bool.true_and, Bool.or_false]

/--
A repeated class takes all the characters it can when what follows begins with none of them and
needs more than the empty text before the end.
-/
theorem matchesHere_star_oneOf (hn : e ≠ .never) (hend : e.nullable false false = false)
    (hd : ∀ c, accepts atoms anyCase c → e.derive false c = .never) (s : List Char) :
    (seq (seq (star (oneOf atoms anyCase)) blank) e).matchesHere false s =
      e.matchesHere false (s.dropWhile (accepts atoms anyCase)) := by
  induction s with
  | nil => rw [List.dropWhile_nil, matchesHere_nil, matchesHere_nil]; simp [nullable]
  | cons c s ih =>
    have hb : blank.derive false c = .never := rfl
    rw [matchesHere_cons, derive_seq, derive_seq, derive_star, derive_oneOf, hb]
    cases hc : accepts atoms anyCase c with
    | true =>
      rw [List.dropWhile_cons_of_pos hc, ← ih]
      simp [nullable, hend, hd c hc, mkSeq]
    | false =>
      rw [List.dropWhile_cons_of_neg (by simp [hc]), matchesHere_cons]
      simp [nullable, hend]

end Expr

end Shorthand.Pattern
