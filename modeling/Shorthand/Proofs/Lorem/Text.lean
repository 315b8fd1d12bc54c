import Mathlib.Data.List.Basic
import Mathlib.Data.List.Forall2
import Mathlib.Data.List.GetD
import Mathlib.Data.List.ModifyLast
import Mathlib.Data.Stream.Init
import Shorthand.Proofs.Text.Blank
import Shorthand.Snippet.Basic

/-! # Sentences of placeholder texts

A text has the words it is asked for, taken from a sequence without end: the opening of its
vocabulary, then the other words over and over. They stand in sentences whose lengths go round in
a cycle, and only the last one may stop early.
-/

namespace Shorthand.Lorem

variable {α : Type} {ws : List String}

/-! ## The words -/

theorem get_cycle {l : List α} (hl : l ≠ []) (d : α) (i : Nat) :
    (Stream'.cycle l hl).get i = l.getD (i % l.length) d := by
  induction i using Nat.strong_induction_on with
  | _ i ih =>
    rw [Stream'.cycle_eq]
    rcases Nat.lt_or_ge i l.length with hi | hi
    · rw [Stream'.get_append_left i l _ hi, Nat.mod_eq_of_lt hi, List.getD_eq_getElem l d hi]
    · obtain ⟨j, rfl⟩ := Nat.exists_eq_add_of_le hi
      have hpos : 0 < l.length := List.length_pos_iff.mpr hl
      rw [Stream'.get_append_right, ih j (by omega), Nat.add_mod_left]

namespace Vocabulary

variable {v : Vocabulary}

/-- The opening, then the words over and over, without end. -/
def stream (v : Vocabulary) (hv : v.words ≠ []) : Stream' String :=
  v.opening ++ₛ .cycle v.words hv

theorem get_stream (hv : v.words ≠ []) (i : Nat) : (v.stream hv).get i = v.word i := by
  unfold stream word
  split
  · rename_i hi
    exact Stream'.get_append_left i v.opening _ hi
  · rename_i hi
    obtain ⟨j, rfl⟩ := Nat.exists_eq_add_of_le (Nat.le_of_not_lt hi)
    rw [Stream'.get_append_right, get_cycle hv "", Nat.add_sub_cancel_left]

theorem word_mem (hv : v.words ≠ []) (i : Nat) : v.word i ∈ v.opening ++ v.words := by
  unfold word
  split
  · exact List.mem_append_left _ (List.getElem_mem _)
  · apply List.mem_append_right
    have hlt := Nat.mod_lt (i - v.opening.length) (List.length_pos_iff.mpr hv)
    rw [List.getD_eq_getElem _ _ hlt]
    exact List.getElem_mem hlt

end Vocabulary

def vocabularies : List Vocabulary :=
  [latin, russian, spanish]

namespace Request

theorem source_cases (r : Request) :
    r.vocabulary = "ru" ∧ r.source = russian ∨ r.vocabulary = "sp" ∧ r.source = spanish ∨
      r.vocabulary ≠ "ru" ∧ r.vocabulary ≠ "sp" ∧ r.source = latin := by
  unfold source vocabulary?
  split <;> simp_all

theorem source_mem (r : Request) : r.source ∈ vocabularies := by
  rcases r.source_cases with ⟨-, h⟩ | ⟨-, h⟩ | ⟨-, -, h⟩ <;> simp [vocabularies, h]

theorem source_words_ne_nil (r : Request) : r.source.words ≠ [] :=
  have h : ∀ v ∈ vocabularies, v.words ≠ [] := by decide
  h r.source r.source_mem

theorem words_eq_take (r : Request) :
    r.words = (r.source.stream r.source_words_ne_nil).take r.count := by
  unfold words
  induction r.count with
  | zero => rfl
  | succ n ih =>
    rw [List.range_succ, List.map_append, ih, Stream'.take_succ', Vocabulary.get_stream]
    rfl

end Request

/-! ## The stretches -/

/-- The parts have the given lengths, up to the last one, which may be shorter but not empty. -/
structure Follows (lengths : Stream' Nat) (parts : List (List α)) : Prop where
  ne_nil : ∀ part ∈ parts, part ≠ []
  length_le : ∀ i (h : i < parts.length), parts[i].length ≤ lengths.get i
  length_eq : ∀ i (h : i + 1 < parts.length), parts[i].length = lengths.get i

theorem Follows.nil (lengths : Stream' Nat) : Follows lengths ([] : List (List α)) where
  ne_nil := by simp
  length_le := by simp
  length_eq := by simp

theorem Follows.cons {lengths : Stream' Nat} {part : List α} {parts : List (List α)}
    (hne : part ≠ []) (hle : part.length ≤ lengths.head)
    (heq : parts ≠ [] → part.length = lengths.head) (h : Follows lengths.tail parts) :
    Follows lengths (part :: parts) where
  ne_nil := List.forall_mem_cons.mpr ⟨hne, h.ne_nil⟩
  length_le := by
    intro i hi
    cases i with
    | zero => exact hle
    | succ i => exact h.length_le i (Nat.lt_of_succ_lt_succ hi)
  length_eq := by
    intro i hi
    cases i with
    | zero => exact heq (List.ne_nil_of_length_pos (Nat.lt_of_succ_lt_succ hi))
    | succ i => exact h.length_eq i (Nat.lt_of_succ_lt_succ hi)

theorem flatten_cut (lengths : List Nat) (i : Nat) (ws : List String) :
    (cut lengths i ws).flatten = ws := by
  fun_induction cut lengths i ws with
  | case1 => rfl
  | case2 i w ws n ih => rw [List.flatten_cons, ih, List.cons_append, List.take_append_drop]

theorem cut_nil (lengths : List Nat) (i : Nat) : cut lengths i [] = [] := by
  rw [cut]

theorem follows_cut {lengths : List Nat} (hne : lengths ≠ []) (hpos : ∀ n ∈ lengths, 0 < n) (i : Nat)
    (ws : List String) : Follows ((Stream'.cycle lengths hne).drop i) (cut lengths i ws) := by
  fun_induction cut lengths i ws with
  | case1 i => exact Follows.nil _
  | case2 i w ws n ih =>
    have hlt : i % lengths.length < lengths.length :=
      Nat.mod_lt i (List.length_pos_iff.mpr hne)
    have hhead : ((Stream'.cycle lengths hne).drop i).head = n + 1 := by
      have hn : 0 < lengths.getD (i % lengths.length) 1 := by
        rw [List.getD_eq_getElem _ _ hlt]
        exact hpos _ (List.getElem_mem hlt)
      rw [Stream'.head, Stream'.get_drop, Nat.add_zero, get_cycle hne 1]
      omega
    have hlen : (w :: ws.take n).length = min n ws.length + 1 := by
      rw [List.length_cons, List.length_take]
    apply Follows.cons (List.cons_ne_nil _ _)
    · omega
    · intro hrest
      have hn : n < ws.length := by
        by_contra hge
        rw [List.drop_eq_nil_of_le (Nat.le_of_not_lt hge), cut_nil] at hrest
        exact hrest rfl
      omega
    · rw [Stream'.tail_drop, Stream'.drop_tail']
      exact ih

/-! ## The sentences -/

def capital : List Char → List Char
  | [] => []
  | c :: s => Text.upperChar c ++ s

/-- The words of a sentence as they stand in it, the first with its capital, the last with a dot. -/
def written (ws : List String) : List (List Char) :=
  ((ws.map String.toList).modifyHead capital).modifyLast (· ++ ['.'])

/-- The written words between single spaces, and no dot but the one at the end. -/
structure IsSentence (ws : List String) (s : String) : Prop where
  spaced : s.toList = [' '].intercalate (written ws)
  dotted : ∃ body, s.toList = body ++ ['.'] ∧ '.' ∉ body

def Plain (w : List Char) : Prop :=
  w ≠ [] ∧ ∀ c ∈ w, Text.isBlank c = false ∧ c ≠ '.'

instance : DecidablePred Plain := fun w =>
  -- another instance would go through all characters there are
  have : Decidable (∀ c ∈ w, Text.isBlank c = false ∧ c ≠ '.') := List.decidableBAll _ w
  inferInstanceAs (Decidable (_ ∧ _))

theorem Plain.words {w : List Char} (h : Plain w) : Text.words w = [w] :=
  Text.words_of_forall h.1 fun c hc => (h.2 c hc).1

theorem Plain.words_concat_dot {w : List Char} (h : Plain w) :
    Text.words (w ++ ['.']) = [w ++ ['.']] := by
  apply Text.words_of_forall (by simp)
  rw [List.forall_mem_append, List.forall_mem_singleton]
  exact ⟨fun c hc => (h.2 c hc).1, by decide⟩

def Ordinary (w : List Char) : Prop :=
  Plain w ∧ Plain (capital w)

instance : DecidablePred Ordinary := fun _ => inferInstanceAs (Decidable (_ ∧ _))

theorem all_ordinary :
    vocabularies.all fun v => (v.opening ++ v.words).all fun w => Ordinary w.toList := by
  decide +kernel

theorem ordinary_of_mem {v : Vocabulary} {w : String} (hv : v ∈ vocabularies)
    (hw : w ∈ v.opening ++ v.words) : Ordinary w.toList :=
  of_decide_eq_true (List.all_eq_true.mp (List.all_eq_true.mp all_ordinary v hv) w hw)

theorem Request.ordinary_words (r : Request) : ∀ w ∈ r.words, Ordinary w.toList := by
  intro w hw
  obtain ⟨i, -, rfl⟩ := List.mem_map.mp hw
  exact ordinary_of_mem r.source_mem (Vocabulary.word_mem r.source_words_ne_nil i)

theorem toList_sentence (ws : List String) :
    (sentence ws).toList = capital ([' '].intercalate (ws.map String.toList)) ++ ['.'] := by
  have hs : (" ".intercalate ws).toList = [' '].intercalate (ws.map String.toList) :=
    String.toList_intercalate
  unfold sentence
  rw [hs]
  cases [' '].intercalate (ws.map String.toList) with
  | nil => rfl
  | cons c s => exact String.toList_ofList

theorem capital_intercalate {w : List Char} (hw : w ≠ []) (sep : List Char) (ws : List (List Char)) :
    capital (sep.intercalate (w :: ws)) = sep.intercalate (capital w :: ws) := by
  cases w with
  | nil => exact absurd rfl hw
  | cons c w =>
    cases ws with
    | nil => simp [capital]
    | cons w' ws => simp [capital, List.intercalate_cons_cons]

theorem intercalate_concat_append (sep : List α) (l : List (List α)) (a t : List α) :
    sep.intercalate (l ++ [a ++ t]) = sep.intercalate (l ++ [a]) ++ t := by
  induction l with
  | nil => simp
  | cons b l ih =>
    cases l with
    | nil => simp [List.intercalate_cons_cons]
    | cons b' l =>
      simp only [List.cons_append, List.intercalate_cons_cons, List.append_assoc] at ih ⊢
      rw [ih]

/-- The words with the capital, told apart from the last one, and the same with the dot. -/
theorem written_eq (hne : ws ≠ []) : ∃ init last,
    (ws.map String.toList).modifyHead capital = init ++ [last] ∧
      written ws = init ++ [last ++ ['.']] := by
  unfold written
  rcases List.eq_nil_or_concat ((ws.map String.toList).modifyHead capital) with h | ⟨init, last, h⟩
  · cases ws with
    | nil => exact absurd rfl hne
    | cons w ws => cases h
  · rw [List.concat_eq_append] at h
    rw [h, List.modifyLast_concat]
    exact ⟨init, last, rfl, rfl⟩

theorem length_written (hne : ws ≠ []) : (written ws).length = ws.length := by
  obtain ⟨init, last, hinit, hw⟩ := written_eq hne
  have hlen := congrArg List.length hinit
  rw [List.length_modifyHead, List.length_map, List.length_append] at hlen
  rw [hw, List.length_append, hlen]
  rfl

theorem plain_of_ordinary (h : ∀ w ∈ ws, Ordinary w.toList) :
    ∀ w ∈ (ws.map String.toList).modifyHead capital, Plain w := by
  cases ws with
  | nil => simp
  | cons w ws =>
    obtain ⟨hw, hws⟩ := List.forall_mem_cons.mp h
    rw [List.map_cons, List.modifyHead_cons, List.forall_mem_cons, List.forall_mem_map]
    exact ⟨hw.2, fun w hw => (hws w hw).1⟩

theorem isSentence_sentence (hne : ws ≠ []) (h : ∀ w ∈ ws, Ordinary w.toList) :
    IsSentence ws (sentence ws) := by
  have hs : (sentence ws).toList =
      [' '].intercalate ((ws.map String.toList).modifyHead capital) ++ ['.'] := by
    cases ws with
    | nil => exact absurd rfl hne
    | cons w ws =>
      have hw : w.toList ≠ [] := (h w List.mem_cons_self).1.1
      rw [toList_sentence, List.map_cons, capital_intercalate hw, List.modifyHead_cons]
  obtain ⟨init, last, hinit, hw⟩ := written_eq hne
  constructor
  · rw [hs, hw, hinit, intercalate_concat_append]
  · refine ⟨_, hs, ?_⟩
    intro hdot
    rcases Text.mem_of_mem_intercalate hdot with hblank | ⟨w, hw, hmem⟩
    · simp at hblank
    · exact ((plain_of_ordinary h w hw).2 _ hmem).2 rfl

theorem words_sentence (hne : ws ≠ []) (h : ∀ w ∈ ws, Ordinary w.toList) :
    Text.words (sentence ws).toList = written ws := by
  obtain ⟨init, last, hwords, hw⟩ := written_eq hne
  have hplain := plain_of_ordinary h
  rw [hwords, List.forall_mem_append, List.forall_mem_singleton] at hplain
  have hword : ∀ w ∈ written ws, Text.words w = [w] := by
    rw [hw, List.forall_mem_append, List.forall_mem_singleton]
    exact ⟨fun w hw => (hplain.1 w hw).words, hplain.2.words_concat_dot⟩
  rw [(isSentence_sentence hne h).spaced, Text.words_intercalate (by decide),
    List.flatMap_congr hword, List.flatMap_singleton']

/-! ## The text -/

theorem sentenceLengths_ne_nil : sentenceLengths ≠ [] :=
  List.cons_ne_nil _ _

namespace Request

def stretches (r : Request) : List (List String) :=
  cut sentenceLengths 0 r.words

theorem flatten_stretches (r : Request) : r.stretches.flatten = r.words :=
  flatten_cut sentenceLengths 0 r.words

theorem follows_stretches (r : Request) :
    Follows (.cycle sentenceLengths sentenceLengths_ne_nil) r.stretches :=
  follows_cut sentenceLengths_ne_nil (by decide) 0 r.words

theorem ordinary_stretches (r : Request) : ∀ ws ∈ r.stretches, ∀ w ∈ ws, Ordinary w.toList := by
  intro ws hws w hw
  apply r.ordinary_words
  rw [← r.flatten_stretches]
  exact List.mem_flatten_of_mem hws hw

theorem words_text (r : Request) :
    Text.words (text r).toList = r.stretches.flatMap written := by
  have htext : (text r).toList = [' '].intercalate ((r.stretches.map sentence).map String.toList) :=
    String.toList_intercalate
  rw [htext, Text.words_intercalate (by decide), List.flatMap_map, List.flatMap_map]
  apply List.flatMap_congr
  intro ws hws
  exact words_sentence (r.follows_stretches.ne_nil ws hws) (r.ordinary_stretches ws hws)

theorem length_words_text (r : Request) : (Text.words (text r).toList).length = r.count := by
  have hlen : r.words.length = r.count := by
    rw [words, List.length_map, List.length_range]
  have hwritten : r.stretches.map (List.length ∘ written) = r.stretches.map List.length :=
    List.map_congr_left fun ws hws => length_written (r.follows_stretches.ne_nil ws hws)
  rw [words_text, List.length_flatMap, ← hlen, ← flatten_stretches, List.length_flatten]
  exact congrArg List.sum hwritten

theorem forall₂_isSentence (r : Request) :
    List.Forall₂ IsSentence r.stretches (r.stretches.map sentence) := by
  rw [List.forall₂_map_right_iff, List.forall₂_same]
  intro ws hws
  exact isSentence_sentence (r.follows_stretches.ne_nil ws hws) (r.ordinary_stretches ws hws)

end Request

theorem count_le_maxCount {name : String} {r : Request} (h : request? name = some r) :
    r.count ≤ maxCount := by
  obtain ⟨⟨letters, digits⟩, -, rfl⟩ := Option.map_eq_some_iff.mp h
  dsimp only
  split
  · decide
  · unfold count
    split
    · exact Nat.min_le_right _ _
    · exact Nat.le_refl _

theorem length_words_render (name : Option String) :
    (Text.words (render name).toList).length ≤ maxCount := by
  rw [render, Request.length_words_text]
  cases h : name.bind request? with
  | none => decide
  | some r =>
    obtain ⟨name, -, hr⟩ := Option.bind_eq_some_iff.mp h
    exact count_le_maxCount hr

end Shorthand.Lorem
