import Mathlib.Tactic.SplitIfs
import Shorthand.Json.Reader
import Shorthand.Proofs.Json.Ordered

/-! # Values that are read

Every value that a text spells is ordered. At no lexeme is anything unordered among the containers
that are still open.
-/

namespace Shorthand.Json

namespace Lexeme

def Ordered : Lexeme → Prop
  | .scalar v => v.Ordered
  | _ => True

theorem ordered_punctuation? {c : Char} {l : Lexeme} (h : punctuation? c = some l) :
    l.Ordered := by
  unfold punctuation? at h
  split at h <;> cases h <;> trivial

theorem ordered_word? {chars : List Char} {l : Lexeme} (h : word? chars = some l) :
    l.Ordered := by
  unfold word? at h
  split_ifs at h
  · cases h; trivial
  · cases h; trivial
  · cases h; trivial
  · obtain ⟨n, -, rfl⟩ := Option.map_eq_some_iff.mp h
    trivial

variable {s t : Scan} {done : List Lexeme}

theorem ordered_start (hd : ∀ l ∈ done, l.Ordered) (c : Char) :
    ∀ l ∈ (start done c).1, l.Ordered := by
  unfold start
  split_ifs
  · exact hd
  · exact hd
  · cases hp : punctuation? c with
    | none => exact hd
    | some p => exact List.forall_mem_cons.mpr ⟨ordered_punctuation? hp, hd⟩

theorem ordered_step {c : Char} (hs : ∀ l ∈ s.1, l.Ordered) (h : step s c = some t) :
    ∀ l ∈ t.1, l.Ordered := by
  obtain ⟨done, mode⟩ := s
  cases mode with
  | between => cases h; exact ordered_start hs c
  | word chars =>
    simp only [step] at h
    split_ifs at h
    · obtain ⟨l, hl, rfl⟩ := Option.map_eq_some_iff.mp h
      exact ordered_start (List.forall_mem_cons.mpr ⟨ordered_word? hl, hs⟩) c
    · cases h; exact hs
  | text chars =>
    simp only [step] at h
    split_ifs at h
    · cases h; exact List.forall_mem_cons.mpr ⟨trivial, hs⟩
    · cases h; exact hs
    · cases h; exact hs
  | escape chars =>
    simp only [step] at h
    split_ifs at h
    · cases h; exact hs
    · obtain ⟨e, -, rfl⟩ := Option.map_eq_some_iff.mp h
      exact hs
  | unicode chars high digits value =>
    obtain ⟨d, -, h⟩ := Option.bind_eq_some_iff.mp h
    split_ifs at h
    · obtain ⟨m, -, rfl⟩ := Option.map_eq_some_iff.mp h
      exact hs
    · cases h; exact hs
  | low chars high =>
    simp only [step] at h
    split_ifs at h
    cases h; exact hs
  | lowEscape chars high =>
    simp only [step] at h
    split_ifs at h
    cases h; exact hs

theorem ordered_foldlM_step {cs : List Char} (hs : ∀ l ∈ s.1, l.Ordered)
    (h : cs.foldlM step s = some t) : ∀ l ∈ t.1, l.Ordered := by
  induction cs generalizing s with
  | nil => cases h; exact hs
  | cons c cs ih =>
    obtain ⟨u, hu, h⟩ := Option.bind_eq_some_iff.mp h
    exact ih (ordered_step hs hu) h

theorem ordered_finish {lexemes : List Lexeme} (hs : ∀ l ∈ s.1, l.Ordered)
    (h : finish s = some lexemes) : ∀ l ∈ lexemes, l.Ordered := by
  obtain ⟨done, mode⟩ := s
  cases mode with
  | between =>
    cases h
    intro l hl; exact hs l (List.mem_reverse.mp hl)
  | word chars =>
    obtain ⟨w, hw, rfl⟩ := Option.map_eq_some_iff.mp h
    intro l hl
    rcases List.mem_cons.mp (List.mem_reverse.mp hl) with rfl | hl
    · exact ordered_word? hw
    · exact hs l hl
  | _ => cases h

theorem ordered_scan {cs : List Char} {lexemes : List Lexeme} (h : scan cs = some lexemes) :
    ∀ l ∈ lexemes, l.Ordered := by
  obtain ⟨s, hs, h⟩ := Option.bind_eq_some_iff.mp h
  exact ordered_finish (ordered_foldlM_step (by simp) hs) h

end Lexeme

def Frame.Ordered : Frame → Prop
  | .items done => ∀ v ∈ done, v.Ordered
  | .member done _ => (obj done).Ordered

namespace Expecting

def Ordered : Expecting → Prop
  | .value stack | .firstItem stack | .firstKey stack => ∀ f ∈ stack, f.Ordered
  | .key stack done | .colon stack done _ | .moreMembers stack done =>
    (∀ f ∈ stack, f.Ordered) ∧ (obj done).Ordered
  | .moreItems stack done => (∀ f ∈ stack, f.Ordered) ∧ ∀ v ∈ done, v.Ordered
  | .nothing v => v.Ordered

variable {e e' : Expecting} {stack : List Frame} {v : Json} {l : Lexeme}

theorem ordered_place (hv : v.Ordered) (hs : ∀ f ∈ stack, f.Ordered) :
    (place v stack).Ordered := by
  cases stack with
  | nil => exact hv
  | cons f stack =>
    obtain ⟨hf, hfs⟩ := List.forall_mem_cons.mp hs
    cases f with
    | items done => exact ⟨hfs, List.forall_mem_cons.mpr ⟨hv, hf⟩⟩
    | member done key => exact ⟨hfs, ordered_obj_insert hf key hv⟩

theorem ordered_startValue (hs : ∀ f ∈ stack, f.Ordered) (hl : l.Ordered)
    (h : startValue stack l = some e) : e.Ordered := by
  cases l with
  | scalar v => cases h; exact ordered_place hl hs
  | str s => cases h; exact ordered_place trivial hs
  | openArr | openObj =>
    simp only [startValue] at h
    split_ifs at h
    cases h; exact hs
  | _ => cases h

theorem ordered_step (he : e.Ordered) (hl : l.Ordered) (h : step e l = some e') :
    e'.Ordered := by
  unfold step at h
  split at h
  · exact ordered_startValue he hl h
  · cases h; exact ordered_place trivial he
  · have hf : (Frame.items []).Ordered := List.forall_mem_nil _
    exact ordered_startValue (List.forall_mem_cons.mpr ⟨hf, he⟩) hl h
  · cases h; exact ordered_place ordered_obj_nil he
  · cases h; exact ⟨he, ordered_obj_nil⟩
  · cases h; exact he
  · cases h; exact List.forall_mem_cons.mpr ⟨he.2, he.1⟩
  · cases h; exact List.forall_mem_cons.mpr ⟨he.2, he.1⟩
  · cases h
    exact ordered_place (ordered_arr_iff.mpr fun v hv => he.2 v (List.mem_reverse.mp hv)) he.1
  · cases h; exact he
  · cases h; exact ordered_place he.2 he.1
  · cases h

theorem ordered_foldlM_step {lexemes : List Lexeme} (he : e.Ordered)
    (hl : ∀ l ∈ lexemes, l.Ordered) (h : lexemes.foldlM step e = some e') : e'.Ordered := by
  induction lexemes generalizing e with
  | nil => cases h; exact he
  | cons l lexemes ih =>
    obtain ⟨hl, hls⟩ := List.forall_mem_cons.mp hl
    obtain ⟨f, hf, h⟩ := Option.bind_eq_some_iff.mp h
    exact ih (ordered_step he hl hf) hls h

end Expecting

/-- Every value that is read is ordered. -/
theorem ordered_of_read? {s : String} {v : Json} (h : read? s = some v) : v.Ordered := by
  obtain ⟨lexemes, hl, h⟩ := Option.bind_eq_some_iff.mp h
  unfold assemble at h
  split at h
  · cases h
    have hstart : (Expecting.value []).Ordered := List.forall_mem_nil _
    exact Expecting.ordered_foldlM_step hstart (Lexeme.ordered_scan hl) ‹_›
  · cases h

end Shorthand.Json
