import Shorthand.Html.Parser
import Shorthand.Proofs.Except
import Shorthand.Proofs.Text.Octets
import Shorthand.Proofs.Text.Split

/-! # Reading an element

An element is read when its bracket is closed at its end, its name has no other characters than
names may have, and something is there. Otherwise the first of the three that fails is reported.
-/

namespace Shorthand.Html

open Text

variable {s head inner : List Char} {e : ParseError}

def beforeBracket (s : List Char) : List Char :=
  s.takeWhile (· ≠ '[')

def writtenName (s : List Char) : List Char :=
  (beforeBracket s).takeWhile (· ≠ '.')

def writtenClasses (s : List Char) : List (List Char) :=
  (split '.' (beforeBracket s)).tail

def NameChar (c : Char) : Prop :=
  c.isAlphanum ∨ c = ':' ∨ c = '!' ∨ c = '-'

instance : DecidablePred NameChar := fun _ => inferInstanceAs (Decidable (_ ∨ _))

theorem isNameChar_iff {c : Char} : isNameChar c ↔ NameChar c := by
  simp [isNameChar, NameChar, or_assoc]

theorem find?_isNameChar_eq_none_iff :
    s.find? (!isNameChar ·) = none ↔ ∀ c ∈ s, NameChar c := by
  simp [isNameChar_iff]

/-- Without bracket, or with one that is closed at the very end. -/
def Closed (s : List Char) : Prop :=
  '[' ∈ s → s.getLast? = some ']'

instance : DecidablePred Closed := fun s =>
  inferInstanceAs (Decidable ('[' ∈ s → s.getLast? = some ']'))

structure WellFormed (s : List Char) : Prop where
  closed : Closed s
  name : ∀ c ∈ writtenName s, NameChar c
  nonempty : writtenName s ≠ [] ∨ (∃ k ∈ writtenClasses s, k ≠ []) ∨ '[' ∈ s

theorem wellFormed_iff : WellFormed s ↔ Closed s ∧ (∀ c ∈ writtenName s, NameChar c) ∧
    (writtenName s ≠ [] ∨ (∃ k ∈ writtenClasses s, k ≠ []) ∨ '[' ∈ s) :=
  ⟨fun h => ⟨h.closed, h.name, h.nonempty⟩, fun ⟨hs, hname, hne⟩ => ⟨hs, hname, hne⟩⟩

instance : DecidablePred WellFormed := fun s =>
  -- another instance would go through all characters there are
  have : Decidable (∀ c ∈ writtenName s, NameChar c) := List.decidableBAll _ _
  decidable_of_iff _ wellFormed_iff.symm

/-- What is wrong with an element. -/
inductive Fault (s : List Char) : ParseError → Prop where
  | unterminated (h : ¬ Closed s) : Fault s (.unterminated (.ofList s))
  /-- The first character that no name has. -/
  | unexpected {c : Char} (hs : Closed s) (before after : List Char)
      (hname : writtenName s = before ++ c :: after) (hbefore : ∀ d ∈ before, NameChar d)
      (hc : ¬ NameChar c) : Fault s (.unexpected c (.ofList s))
  | empty (hname : writtenName s = []) (hclasses : ∀ k ∈ writtenClasses s, k = [])
      (hbracket : '[' ∉ s) : Fault s .empty

/-! ## Brackets -/

theorem cutBrackets_of_not_mem (h : '[' ∉ s) : cutBrackets s = .ok (s, none) := by
  rw [cutBrackets, splitOnce_of_not_mem h]

theorem cutBrackets_append (h : '[' ∉ head) (inner : List Char) :
    cutBrackets (head ++ '[' :: (inner ++ [']'])) = .ok (head, some inner) := by
  have hlast : (head ++ '[' :: (inner ++ [']'])).getLast? = some ']' := by
    rw [← List.cons_append, ← List.append_assoc, List.getLast?_concat]
  simp only [cutBrackets, splitOnce_append_cons h, hlast, if_true, List.dropLast_concat]

theorem cutBrackets_of_not_closed (h : ¬ Closed s) :
    cutBrackets s = .error (.unterminated (.ofList s)) := by
  obtain ⟨hopen, hlast⟩ := Classical.not_imp.mp h
  obtain ⟨head, rest, rfl, hhead⟩ := List.eq_append_cons_of_mem hopen
  simp only [cutBrackets, splitOnce_append_cons hhead, if_neg hlast]

theorem Closed.exists_inner (h : Closed s) (hopen : '[' ∈ s) :
    ∃ head inner, s = head ++ '[' :: (inner ++ [']']) ∧ '[' ∉ head := by
  obtain ⟨head, rest, rfl, hhead⟩ := List.eq_append_cons_of_mem hopen
  have hlast := h hopen
  rcases List.eq_nil_or_concat rest with rfl | ⟨inner, c, rfl⟩
  · simp at hlast
  · rw [List.concat_eq_append, ← List.cons_append, ← List.append_assoc,
      List.getLast?_concat] at hlast
    obtain rfl := Option.some.inj hlast
    exact ⟨head, inner, by rw [List.concat_eq_append], hhead⟩

theorem beforeBracket_of_not_mem (h : '[' ∉ s) : beforeBracket s = s :=
  takeWhile_of_not_mem h

theorem beforeBracket_append (h : '[' ∉ head) (rest : List Char) :
    beforeBracket (head ++ '[' :: rest) = head :=
  takeWhile_append_cons h rest

theorem Closed.cutBrackets (h : Closed s) :
    ∃ brackets, cutBrackets s = .ok (beforeBracket s, brackets) ∧
      (brackets.isNone ↔ '[' ∉ s) := by
  by_cases hopen : '[' ∈ s
  · obtain ⟨head, inner, rfl, hhead⟩ := h.exists_inner hopen
    rw [beforeBracket_append hhead]
    exact ⟨some inner, cutBrackets_append hhead inner, by simp⟩
  · rw [beforeBracket_of_not_mem hopen]
    exact ⟨none, cutBrackets_of_not_mem hopen, by simp [hopen]⟩

/-- The offsets at which an element is sliced lie in it, in order and between characters. -/
theorem slices_of_cutBrackets (h : cutBrackets s = .ok (head, some inner)) :
    '[' ∉ head ∧ IsSlice s 0 (octetCount head) head ∧
      IsSlice s (octetCount head) (octetCount head + 1) ['['] ∧
      IsSlice s (octetCount head + 1) (octetCount s - 1) inner := by
  by_cases hs : Closed s
  · by_cases hopen : '[' ∈ s
    · obtain ⟨head', inner', rfl, hhead⟩ := hs.exists_inner hopen
      rw [cutBrackets_append hhead] at h
      cases h
      refine ⟨hhead, ⟨[], '[' :: (inner ++ [']']), ?_, rfl, rfl⟩,
        ⟨head, inner ++ [']'], ?_, rfl, ?_⟩, ⟨head ++ ['['], [']'], ?_, ?_, ?_⟩⟩
      · rfl
      · simp
      · exact octetCount_append head ['[']
      · simp
      · exact octetCount_append head ['[']
      · have hall : head ++ '[' :: (inner ++ [']']) = (head ++ ['['] ++ inner) ++ [']'] := by simp
        rw [hall, octetCount_append _ [']']]
        rfl
    · rw [cutBrackets_of_not_mem hopen] at h
      cases h
  · rw [cutBrackets_of_not_closed hs] at h
    cases h

/-! ## Name and classes -/

theorem read_of_not_closed (h : ¬ Closed s) :
    Element.read s = .error (.unterminated (.ofList s)) := by
  rw [Element.read, cutBrackets_of_not_closed h]
  rfl

theorem read_of_cutBrackets {brackets : Option (List Char)}
    (h : cutBrackets s = .ok (beforeBracket s, brackets)) :
    Element.read s = match (writtenName s).find? (!isNameChar ·) with
      | some c => .error (.unexpected c (.ofList s))
      | none =>
        if (writtenName s).isEmpty && ((writtenClasses s).filter (!·.isEmpty)).isEmpty &&
            brackets.isNone then .error .empty
        else .ok {
          name := writtenName s
          classes := (writtenClasses s).filter (!·.isEmpty)
          brackets } := by
  simp only [Element.read, h, bind, Except.bind, headD_split]
  rfl

theorem read_of_fault (h : Fault s e) : Element.read s = .error e := by
  cases h with
  | unterminated h => exact read_of_not_closed h
  | @unexpected c hs before after hname hbefore hc =>
    obtain ⟨brackets, hcut, -⟩ := hs.cutBrackets
    have hfind : (writtenName s).find? (!isNameChar ·) = some c := by
      simp only [← isNameChar_iff] at hbefore hc
      exact List.find?_eq_some_iff_append.mpr
        ⟨by simpa using hc, before, after, hname, by simpa using hbefore⟩
    rw [read_of_cutBrackets hcut, hfind]
  | empty hname hclasses hbracket =>
    have hs : Closed s := fun h => absurd h hbracket
    obtain ⟨brackets, hcut, hnone⟩ := hs.cutBrackets
    have hfilter : (writtenClasses s).filter (!·.isEmpty) = [] :=
      List.filter_eq_nil_iff.mpr fun k hk => by simp [hclasses k hk]
    rw [read_of_cutBrackets hcut, hname, hfilter, hnone.mpr hbracket]
    rfl

theorem exists_read_of_wellFormed (h : WellFormed s) : ∃ element, Element.read s = .ok element := by
  obtain ⟨brackets, hcut, hnone⟩ := h.closed.cutBrackets
  have hfind : (writtenName s).find? (!isNameChar ·) = none :=
    find?_isNameChar_eq_none_iff.mpr h.name
  have hsome : ¬ ((writtenName s).isEmpty && ((writtenClasses s).filter (!·.isEmpty)).isEmpty &&
      brackets.isNone) := by
    simp only [Bool.and_eq_true, List.isEmpty_iff, List.filter_eq_nil_iff, hnone]
    rintro ⟨⟨hname, hclasses⟩, hbracket⟩
    rcases h.nonempty with hn | ⟨k, hk, hne⟩ | hopen
    · exact hn hname
    · exact hclasses k hk (by simpa using hne)
    · exact hbracket hopen
  rw [read_of_cutBrackets hcut, hfind]
  exact ⟨_, if_neg hsome⟩

theorem wellFormed_or_fault (s : List Char) : WellFormed s ∨ ∃ e, Fault s e := by
  by_cases hs : Closed s
  · cases hfind : (writtenName s).find? (!isNameChar ·) with
    | some c =>
      obtain ⟨hc, before, after, hname, hbefore⟩ := List.find?_eq_some_iff_append.mp hfind
      refine Or.inr ⟨_, .unexpected hs before after hname ?_ ?_⟩
      · simpa [isNameChar_iff] using hbefore
      · simpa [← isNameChar_iff] using hc
    | none =>
      have hname : ∀ c ∈ writtenName s, NameChar c := find?_isNameChar_eq_none_iff.mp hfind
      by_cases hne : writtenName s ≠ [] ∨ (∃ k ∈ writtenClasses s, k ≠ []) ∨ '[' ∈ s
      · exact Or.inl ⟨hs, hname, hne⟩
      · obtain ⟨hn, hclasses, hbracket⟩ := by simpa only [not_or] using hne
        refine Or.inr ⟨_, .empty (not_not.mp hn) ?_ hbracket⟩
        intro k hk
        by_contra hk'
        exact hclasses ⟨k, hk, hk'⟩
  · exact Or.inr ⟨_, .unterminated hs⟩

theorem exists_read_iff : (∃ element, Element.read s = .ok element) ↔ WellFormed s := by
  refine ⟨?_, exists_read_of_wellFormed⟩
  rintro ⟨element, h⟩
  rcases wellFormed_or_fault s with hs | ⟨e, he⟩
  · exact hs
  · rw [read_of_fault he] at h
    cases h

theorem read_error_iff : Element.read s = .error e ↔ Fault s e := by
  refine ⟨?_, read_of_fault⟩
  intro h
  rcases wellFormed_or_fault s with hs | ⟨e', he⟩
  · obtain ⟨element, hok⟩ := exists_read_of_wellFormed hs
    rw [hok] at h
    cases h
  · rw [read_of_fault he] at h
    cases h
    exact he

end Shorthand.Html
