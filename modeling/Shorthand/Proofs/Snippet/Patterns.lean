import Shorthand.Proofs.Snippet.Names

/-! # Patterns of a layer

The patterns of a layer stand in the order in which the history of the layer first sets them, each
once and with the snippet that it was last set to. The first of them that matches a name is the
one that was set first of all that match.
-/

namespace Shorthand.Layer

variable {edits : List Edit} {l : Layer} {key name : String} {s t : Snippet} {p q : Pattern}

def sources (l : Layer) : List Pattern :=
  l.patterns.map (·.1)

def Edit.pattern? : Edit → Option Pattern
  | insert .. => none
  | setPattern p _ => some p

/-- The patterns that a history sets, in its order and as often as it sets them. -/
def setSources (edits : List Edit) : List Pattern :=
  edits.filterMap Edit.pattern?

def Edit.Sets (p : Pattern) (e : Edit) (s : Snippet) : Prop :=
  e = .setPattern p s

theorem patterns_insert (l : Layer) (key : String) (s : Snippet) :
    (l.insert key s).patterns = l.patterns :=
  rfl

theorem names_setPattern (l : Layer) (p : Pattern) (s : Snippet) :
    (l.setPattern p s).names = l.names :=
  rfl

theorem patterns_setPattern (l : Layer) (p : Pattern) (s : Snippet) :
    (l.setPattern p s).patterns =
      if p ∈ l.sources then l.patterns.map fun e => if e.1 = p then (p, s) else e
      else l.patterns ++ [(p, s)] := by
  have hany : l.patterns.any (·.1 = p) ↔ p ∈ l.sources := by simp [sources]
  by_cases h : p ∈ l.sources <;> simp [setPattern, hany, h]

theorem sources_setPattern (l : Layer) (p : Pattern) (s : Snippet) :
    (l.setPattern p s).sources = if p ∈ l.sources then l.sources else l.sources ++ [p] := by
  have hfst (e : Pattern × Snippet) : (if e.1 = p then (p, s) else e).1 = e.1 := by
    split
    · exact (‹e.1 = p›).symm
    · rfl
  rw [sources, patterns_setPattern]
  split
  · rw [List.map_map]
    exact List.map_congr_left fun e _ => hfst e
  · rw [List.map_append]; rfl

theorem mem_patterns_setPattern : (q, t) ∈ (l.setPattern p s).patterns ↔
    if q = p then t = s else (q, t) ∈ l.patterns := by
  rw [patterns_setPattern]
  by_cases hp : p ∈ l.sources
  · rw [if_pos hp, List.mem_map]
    constructor
    · rintro ⟨e, he, h⟩
      by_cases hep : e.1 = p
      · rw [if_pos hep] at h
        obtain ⟨rfl, rfl⟩ := Prod.mk.inj h
        rw [if_pos rfl]
      · rw [if_neg hep] at h
        subst h
        rwa [if_neg hep]
    · intro h
      by_cases hq : q = p
      · rw [if_pos hq] at h
        subst q t
        obtain ⟨e, he, hep⟩ := List.mem_map.mp hp
        exact ⟨e, he, if_pos hep⟩
      · rw [if_neg hq] at h
        exact ⟨(q, t), h, if_neg hq⟩
  · have hnew (t : Snippet) : (p, t) ∉ l.patterns := fun h => hp (List.mem_map.mpr ⟨_, h, rfl⟩)
    rw [if_neg hp, List.mem_append, List.mem_singleton, Prod.mk.injEq]
    by_cases hq : q = p
    · subst q
      simp [hnew]
    · simp [hq]

theorem mem_patterns_edit {e : Edit} : (p, s) ∈ (l.edit e).patterns ↔
    e.Sets p s ∨ ((p, s) ∈ l.patterns ∧ ∀ t, ¬ e.Sets p t) := by
  cases e with
  | insert key t => simp [edit, patterns_insert, Edit.Sets]
  | setPattern q t =>
    simp only [edit, mem_patterns_setPattern, Edit.Sets, Edit.setPattern.injEq]
    by_cases h : p = q
    · subst h
      simp [eq_comm]
    · simp [h, Ne.symm h]

theorem mem_patterns_ofEdits :
    (p, s) ∈ (ofEdits edits).patterns ↔ LastGives (Edit.Sets p) edits s := by
  induction edits using List.reverseRecOn with
  | nil => exact iff_of_false List.not_mem_nil not_lastGives_nil
  | append_singleton edits e ih =>
    rw [ofEdits_append_singleton, mem_patterns_edit, ih, lastGives_append_singleton]

theorem mem_setSources_iff : p ∈ setSources edits ↔ ∃ e ∈ edits, ∃ s, e.Sets p s := by
  have hp (e : Edit) : e.pattern? = some p ↔ ∃ s, e.Sets p s := by
    cases e <;> simp [Edit.pattern?, Edit.Sets]
  simp only [setSources, List.mem_filterMap, hp]

theorem mem_sources_ofEdits : p ∈ (ofEdits edits).sources ↔ p ∈ setSources edits := by
  rw [mem_setSources_iff, ← exists_lastGives_iff, sources, List.mem_map]
  simp [mem_patterns_ofEdits]

theorem setSources_append_singleton (edits : List Edit) (e : Edit) :
    setSources (edits ++ [e]) = setSources edits ++ e.pattern?.toList := by
  rw [setSources, List.filterMap_append]
  cases e <;> rfl

/-- The order of the patterns is that of the times at which they were first set. -/
theorem pairwise_sources_ofEdits (edits : List Edit) :
    (ofEdits edits).sources.Pairwise fun p q =>
      (setSources edits).idxOf p < (setSources edits).idxOf q := by
  induction edits using List.reverseRecOn with
  | nil => exact List.Pairwise.nil
  | append_singleton edits e ih =>
    rw [ofEdits_append_singleton, setSources_append_singleton]
    cases e with
    | insert key s =>
      rw [Edit.pattern?, Option.toList_none, List.append_nil]
      exact ih
    | setPattern r s =>
      have hold : (ofEdits edits).sources.Pairwise fun p q =>
          (setSources edits ++ [r]).idxOf p < (setSources edits ++ [r]).idxOf q := by
        refine ih.imp_of_mem fun hp hq h => ?_
        rwa [List.idxOf_append_of_mem (mem_sources_ofEdits.mp hp),
          List.idxOf_append_of_mem (mem_sources_ofEdits.mp hq)]
      change ((ofEdits edits).setPattern r s).sources.Pairwise _
      rw [sources_setPattern]
      split
      · exact hold
      · rename_i hr
        refine List.pairwise_append.mpr ⟨hold, List.pairwise_singleton _ _, ?_⟩
        intro p hp q hq
        obtain rfl := List.mem_singleton.mp hq
        have hp := mem_sources_ofEdits.mp hp
        have hr := mt mem_sources_ofEdits.mpr hr
        have hlt := List.idxOf_lt_length_iff.mpr hp
        rw [List.idxOf_append_of_mem hp, List.idxOf_append_of_notMem hr]
        omega

theorem find?_eq_some_iff_rank {α : Type} {ok : α → Bool} {rank : α → Nat} {xs : List α} {x : α}
    (h : xs.Pairwise fun y z => rank y < rank z) :
    xs.find? ok = some x ↔ x ∈ xs ∧ ok x ∧ ∀ y ∈ xs, ok y → rank x ≤ rank y := by
  rw [List.find?_eq_some_iff_append]
  constructor
  · rintro ⟨hx, before, after, rfl, hb⟩
    refine ⟨by simp, hx, fun y hy hok => ?_⟩
    rcases List.mem_append.mp hy with hy | hy
    · simpa [hok] using hb y hy
    · rcases List.mem_cons.mp hy with rfl | hy
      · exact le_rfl
      · exact (List.rel_of_pairwise_cons (List.pairwise_append.mp h).2.1 hy).le
  · rintro ⟨hx, hok, hmin⟩
    obtain ⟨before, after, rfl⟩ := List.append_of_mem hx
    refine ⟨hok, before, after, rfl, fun y hy => ?_⟩
    have hlt : rank y < rank x := (List.pairwise_append.mp h).2.2 y hy x List.mem_cons_self
    have hle : ok y → rank x ≤ rank y := hmin y (by simp [hy])
    cases hoky : ok y with
    | false => rfl
    | true => exact absurd (hle hoky) (by omega)

theorem matchPattern?_ofEdits : (ofEdits edits).matchPattern? name = some s ↔
    ∃ p, LastGives (Edit.Sets p) edits s ∧ p.isMatch name ∧ ∀ q ∈ setSources edits,
      q.isMatch name → (setSources edits).idxOf p ≤ (setSources edits).idxOf q := by
  have hrank : (ofEdits edits).patterns.Pairwise fun x y =>
      (setSources edits).idxOf x.1 < (setSources edits).idxOf y.1 := by
    have h := pairwise_sources_ofEdits edits
    rwa [sources, List.pairwise_map] at h
  simp only [← mem_sources_ofEdits, ← mem_patterns_ofEdits]
  rw [matchPattern?, Option.map_eq_some_iff]
  simp only [find?_eq_some_iff_rank hrank, sources, List.forall_mem_map, Prod.exists,
    exists_eq_right]

theorem matchPattern?_ofEdits_eq_none : (ofEdits edits).matchPattern? name = none ↔
    ∀ p ∈ setSources edits, p.isMatch name = false := by
  rw [matchPattern?, Option.map_eq_none_iff, List.find?_eq_none]
  simp only [← mem_sources_ofEdits, sources, List.forall_mem_map, Bool.not_eq_true]

/--
Whatever the history of a layer, its patterns are the ones that were set, each once, in the order
in which they were first set and with the snippet they were last set to. A name matches the one of
them that was set first. To set a pattern again changes its snippet but not its rank. Exact names
and patterns do not touch each other.
-/
theorem patterns_of_history :
    (∀ edits : List Edit,
      (ofEdits edits).sources.Nodup ∧
        (∀ p, p ∈ (ofEdits edits).sources ↔ p ∈ setSources edits) ∧
        (ofEdits edits).sources.Pairwise (fun p q =>
          (setSources edits).idxOf p < (setSources edits).idxOf q) ∧
        (∀ p s, (p, s) ∈ (ofEdits edits).patterns ↔ LastGives (Edit.Sets p) edits s) ∧
        (∀ name s, (ofEdits edits).matchPattern? name = some s ↔
          ∃ p, LastGives (Edit.Sets p) edits s ∧ p.isMatch name ∧ ∀ q ∈ setSources edits,
            q.isMatch name → (setSources edits).idxOf p ≤ (setSources edits).idxOf q) ∧
        (∀ name, (ofEdits edits).matchPattern? name = none ↔
          ∀ p ∈ setSources edits, p.isMatch name = false) ∧
        ∀ p ∈ setSources edits, ∀ s,
          (ofEdits (edits ++ [.setPattern p s])).sources = (ofEdits edits).sources ∧
            (p, s) ∈ (ofEdits (edits ++ [.setPattern p s])).patterns) ∧
    (∀ (l : Layer) key s, (l.insert key s).patterns = l.patterns) ∧
    ∀ (l : Layer) p s, (l.setPattern p s).names = l.names := by
  refine ⟨fun edits => ?_, patterns_insert, names_setPattern⟩
  have hrank := pairwise_sources_ofEdits edits
  refine ⟨hrank.imp fun h hpq => by simp [hpq] at h, fun p => mem_sources_ofEdits, hrank,
    fun p s => mem_patterns_ofEdits, fun name s => matchPattern?_ofEdits,
    fun name => matchPattern?_ofEdits_eq_none, fun p hp s => ?_⟩
  rw [ofEdits_append_singleton]
  constructor
  · change ((ofEdits edits).setPattern p s).sources = _
    rw [sources_setPattern, if_pos (mem_sources_ofEdits.mpr hp)]
  · exact mem_patterns_edit.mpr (Or.inl rfl)

def overlappingEdits : List Edit :=
  [.setPattern ⟨"^a"⟩ (.literal "one"), .insert "a|b" (.literal "x"),
    .setPattern ⟨"b$"⟩ (.literal "two")]

theorem patterns_of_history_overlappingEdits :
    ⟨"^a"⟩ ∈ setSources overlappingEdits ∧
      let edits := overlappingEdits ++ [.setPattern ⟨"^a"⟩ (.literal "three")]
      (ofEdits edits).sources = (ofEdits overlappingEdits).sources ∧
        (ofEdits edits).matchPattern? "ab" = some (.literal "three") ∧
        ∃ p, LastGives (Edit.Sets p) edits (.literal "three") ∧ p.isMatch "ab" := by
  have hp : ⟨"^a"⟩ ∈ setSources overlappingEdits := by decide
  refine ⟨hp, ?_⟩
  intro edits
  have hm : (ofEdits edits).matchPattern? "ab" = some (.literal "three") := rfl
  have hsources : (ofEdits edits).sources = (ofEdits overlappingEdits).sources :=
    ((patterns_of_history.1 overlappingEdits).2.2.2.2.2.2 _ hp _).1
  obtain ⟨p, hlast, hmatch, _⟩ := ((patterns_of_history.1 edits).2.2.2.2.1 "ab" _).mp hm
  exact ⟨hsources, hm, p, hlast, hmatch⟩

end Shorthand.Layer
