import Shorthand.Proofs.Html.Parser
import Shorthand.Proofs.Text.Blank

/-! # Markup abbreviations that are written

An element is written as its name, its classes after dots, and its attributes between brackets.
Elements that stand in one another are joined by `>`, and chains of them by `+`. What is written
so is read back, whatever brackets and quotes stand in it.
-/

namespace Shorthand

open Text

def Html.Unbroken (s : List Char) : Prop :=
  ∀ c ∈ s, isBlank c = false ∧ c ≠ '+' ∧ c ≠ '>'

namespace Attribute

variable {a : Attribute}

/-- A bare attribute is written as its name, another one with its value after it. -/
def spell (a : Attribute) : List Char :=
  match a.value with
  | some value => a.name.toList ++ '=' :: value.toList
  | none => a.name.toList

/-- The attribute is told from those beside it, its name from its value, and no quote is lost. -/
structure Writable (a : Attribute) : Prop where
  name : Html.Unbroken a.name.toList
  name_value : '=' ∉ a.name.toList
  bare : a.value = none → a.name ≠ ""
  value : ∀ value ∈ a.value, Html.Unbroken value.toList
  quotes : ∀ value ∈ a.value, value.toList.head? ≠ some '"' ∧ value.toList.getLast? ≠ some '"'

instance : DecidablePred Writable := fun a =>
  -- another instance would go through all characters there are
  have (s : List Char) : Decidable (Html.Unbroken s) := List.decidableBAll _ s
  decidable_of_iff (Html.Unbroken a.name.toList ∧ '=' ∉ a.name.toList ∧
      (a.value = none → a.name ≠ "") ∧ (∀ value ∈ a.value, Html.Unbroken value.toList) ∧
      ∀ value ∈ a.value, value.toList.head? ≠ some '"' ∧ value.toList.getLast? ≠ some '"')
    ⟨fun ⟨hn, heq, hb, hv, hq⟩ => ⟨hn, heq, hb, hv, hq⟩,
      fun h => ⟨h.name, h.name_value, h.bare, h.value, h.quotes⟩⟩

theorem Writable.readAttribute_spell (h : a.Writable) : Html.readAttribute a.spell = a := by
  obtain ⟨name, _ | value⟩ := a
  · simp only [spell, Html.readAttribute, splitOnce_of_not_mem h.name_value, String.ofList_toList]
  · obtain ⟨hhead, hlast⟩ := h.quotes value rfl
    have htrim : trimWhere (· == '"') value.toList = value.toList := by
      apply trimWhere_eq_iff.mpr
      refine ⟨[], [], by simp, nofun, nofun, ?_, ?_⟩
      · exact fun c hc => beq_false_of_ne fun hquote => hhead (hquote ▸ hc)
      · exact fun c hc => beq_false_of_ne fun hquote => hlast (hquote ▸ hc)
    simp only [spell, Html.readAttribute, splitOnce_append_cons h.name_value, htrim,
      String.ofList_toList]

theorem Writable.unbroken_spell (h : a.Writable) : Html.Unbroken a.spell := by
  obtain ⟨name, _ | value⟩ := a
  · exact h.name
  · refine List.forall_mem_append.mpr ⟨h.name, List.forall_mem_cons.mpr ⟨?_, h.value value rfl⟩⟩
    decide

theorem Writable.spell_ne_nil (h : a.Writable) : a.spell ≠ [] := by
  obtain ⟨name, _ | value⟩ := a
  · have hname : name ≠ "" := h.bare rfl
    simpa [spell] using hname
  · simp [spell]

theorem Writable.words_spell (h : a.Writable) : words a.spell = [a.spell] :=
  words_of_forall h.spell_ne_nil fun c hc => (h.unbroken_spell c hc).1

end Attribute

namespace Html

/-- An element as it is meant. The name is empty if there is none. -/
structure Tag where
  name : String := ""
  classes : List String := []
  /-- What stands between the brackets, if there are any. -/
  attributes : Option (List Attribute) := none
  deriving DecidableEq, Repr

namespace Tag

variable {t : Tag}

def spellHead (t : Tag) : List Char :=
  t.name.toList ++ t.classes.flatMap fun k => '.' :: k.toList

def spellInner (t : Tag) : Option (List Char) :=
  t.attributes.map fun items => [' '].intercalate (items.map Attribute.spell)

def spell (t : Tag) : List Char :=
  t.spellHead ++ match t.spellInner with
    | some inner => '[' :: (inner ++ [']'])
    | none => []

/-- The node that a tag stands for. One without a name is a `div`. -/
def node (t : Tag) : Node where
  name := some (if t.name = "" then "div" else t.name)
  attributes :=
    (if t.classes = [] then [] else
      [{ name := "class", value := some (" ".intercalate t.classes) }]) ++ t.attributes.getD []

/-- Something is there, and no part of it is taken for another one. -/
structure Writable (t : Tag) : Prop where
  name : ∀ c ∈ t.name.toList, NameChar c
  classes : ∀ k ∈ t.classes, k ≠ "" ∧ ∀ c ∈ k.toList, c ∉ ['.', '[', '+', '>']
  attributes : ∀ items ∈ t.attributes, ∀ a ∈ items, a.Writable
  nonempty : t.name ≠ "" ∨ t.classes ≠ [] ∨ t.attributes.isSome

instance : DecidablePred Writable := fun t =>
  have (p : Char → Prop) [DecidablePred p] (s : List Char) : Decidable (∀ c ∈ s, p c) :=
    List.decidableBAll _ s
  decidable_of_iff ((∀ c ∈ t.name.toList, NameChar c) ∧
      (∀ k ∈ t.classes, k ≠ "" ∧ ∀ c ∈ k.toList, c ∉ ['.', '[', '+', '>']) ∧
      (∀ items ∈ t.attributes, ∀ a ∈ items, a.Writable) ∧
      (t.name ≠ "" ∨ t.classes ≠ [] ∨ t.attributes.isSome))
    ⟨fun ⟨hn, hk, ha, hne⟩ => ⟨hn, hk, ha, hne⟩,
      fun h => ⟨h.name, h.classes, h.attributes, h.nonempty⟩⟩

theorem spellHead_eq_intercalate (t : Tag) :
    t.spellHead = ['.'].intercalate (t.name.toList :: t.classes.map String.toList) := by
  unfold spellHead
  generalize t.name.toList = s
  induction t.classes generalizing s with
  | nil => simp
  | cons k classes ih =>
    rw [List.map_cons, List.intercalate_cons_cons, ← ih k.toList, List.flatMap_cons]
    simp

theorem Writable.dot_not_mem_name (h : t.Writable) : '.' ∉ t.name.toList :=
  fun hdot => absurd (h.name _ hdot) (by decide)

theorem Writable.forall_spellHead (h : t.Writable) : ∀ c ∈ t.spellHead, c ∉ ['[', '+', '>'] := by
  intro c hc
  rcases List.mem_append.mp hc with hname | hclass
  · simp only [List.mem_cons, List.not_mem_nil, or_false]
    rintro (rfl | rfl | rfl)
    all_goals exact absurd (h.name _ hname) (by decide)
  · obtain ⟨k, hk, hkc⟩ := List.mem_flatMap.mp hclass
    rcases List.mem_cons.mp hkc with rfl | hkc
    · decide
    · exact fun hd => (h.classes k hk).2 c hkc (List.mem_cons_of_mem _ hd)

theorem Writable.bracket_not_mem_spellHead (h : t.Writable) : '[' ∉ t.spellHead :=
  fun hc => absurd (h.forall_spellHead _ hc) (by decide)

theorem Writable.split_spellHead (h : t.Writable) :
    split '.' t.spellHead = t.name.toList :: t.classes.map String.toList := by
  rw [spellHead_eq_intercalate]
  apply split_intercalate (List.cons_ne_nil _ _)
  rw [List.forall_mem_cons, List.forall_mem_map]
  refine ⟨h.dot_not_mem_name, fun k hk hdot => ?_⟩
  exact absurd List.mem_cons_self ((h.classes k hk).2 '.' hdot)

theorem Writable.cutBrackets_spell (h : t.Writable) :
    cutBrackets t.spell = .ok (t.spellHead, t.spellInner) := by
  unfold spell
  cases t.spellInner with
  | none => rw [List.append_nil, cutBrackets_of_not_mem h.bracket_not_mem_spellHead]
  | some inner => exact cutBrackets_append h.bracket_not_mem_spellHead inner

theorem Writable.beforeBracket_spell (h : t.Writable) : beforeBracket t.spell = t.spellHead := by
  unfold spell
  cases t.spellInner with
  | none => rw [List.append_nil, beforeBracket_of_not_mem h.bracket_not_mem_spellHead]
  | some inner => exact beforeBracket_append h.bracket_not_mem_spellHead _

def element (t : Tag) : Element where
  name := t.name.toList
  classes := t.classes.map String.toList
  brackets := t.spellInner

theorem Writable.read_spell (h : t.Writable) : Element.read t.spell = .ok t.element := by
  have hname : writtenName t.spell = t.name.toList := by
    rw [writtenName, h.beforeBracket_spell, ← headD_split, h.split_spellHead]
    rfl
  have hclasses : (writtenClasses t.spell).filter (!·.isEmpty) = t.classes.map String.toList := by
    rw [writtenClasses, h.beforeBracket_spell, h.split_spellHead, List.tail_cons,
      List.filter_eq_self, List.forall_mem_map]
    intro k hk
    simpa using (h.classes k hk).1
  have hfind : t.name.toList.find? (!isNameChar ·) = none :=
    find?_isNameChar_eq_none_iff.mpr h.name
  have hsome : ¬ (t.name.toList.isEmpty && (t.classes.map String.toList).isEmpty &&
      t.spellInner.isNone) := by
    simpa [spellInner, or_assoc, imp_iff_not_or, Option.isSome_iff_ne_none] using h.nonempty
  have hcut := h.cutBrackets_spell
  rw [← h.beforeBracket_spell] at hcut
  rw [read_of_cutBrackets hcut, hname, hclasses, hfind]
  exact if_neg hsome

theorem classAttribute_element (t : Tag) : t.element.classAttribute =
    if t.classes = [] then [] else
      [{ name := "class", value := some (" ".intercalate t.classes) }] := by
  have hjoin : String.ofList ([' '].intercalate (t.classes.map String.toList)) =
      " ".intercalate t.classes := by
    rw [← String.toList_inj, String.toList_ofList, String.toList_intercalate]
    rfl
  simp only [Element.classAttribute, element, hjoin, List.isEmpty_map, List.isEmpty_iff]

theorem map_readAttribute_words {items : List Attribute} (h : ∀ a ∈ items, a.Writable) :
    (words ([' '].intercalate (items.map Attribute.spell))).map readAttribute = items := by
  have hwords : words ([' '].intercalate (items.map Attribute.spell)) =
      items.map Attribute.spell := by
    rw [words_intercalate (by decide), List.flatMap_map, List.map_eq_flatMap]
    exact List.flatMap_congr fun a ha => (h a ha).words_spell
  have hread : items.map (readAttribute ∘ Attribute.spell) = items.map id :=
    List.map_congr_left fun a ha => (h a ha).readAttribute_spell
  rw [hwords, List.map_map, hread, List.map_id]

theorem Writable.node_element (h : t.Writable) : t.element.node = t.node := by
  have hname : (if t.element.name.isEmpty then "div" else String.ofList t.element.name) =
      if t.name = "" then "div" else t.name := by
    simp [element]
  have hattributes : (words (t.element.brackets.getD [])).map readAttribute =
      t.attributes.getD [] := by
    simp only [element, spellInner]
    cases hitems : t.attributes with
    | none => rfl
    | some items => exact map_readAttribute_words (h.attributes items hitems)
  rw [Element.node, hname, hattributes, classAttribute_element]
  rfl

theorem Writable.forall_spellInner (h : t.Writable) :
    ∀ inner ∈ t.spellInner, ∀ c ∈ inner, c ∉ ['+', '>'] := by
  intro inner hinner c hc hd
  obtain ⟨items, hitems, rfl⟩ := Option.map_eq_some_iff.mp hinner
  rcases mem_of_mem_intercalate hc with hspace | ⟨s, hs, hcs⟩
  · obtain rfl := List.mem_singleton.mp hspace
    exact absurd hd (by decide)
  · obtain ⟨a, ha, rfl⟩ := List.mem_map.mp hs
    have hbreak := ((h.attributes items hitems a ha).unbroken_spell c hcs).2
    simp [hbreak] at hd

theorem Writable.forall_spell (h : t.Writable) : ∀ c ∈ t.spell, c ∉ ['+', '>'] := by
  unfold spell
  rw [List.forall_mem_append]
  constructor
  · exact fun c hc hd => h.forall_spellHead c hc (List.mem_cons_of_mem _ hd)
  · cases hinner : t.spellInner with
    | none => exact nofun
    | some inner =>
      rw [List.forall_mem_cons, List.forall_mem_append]
      exact ⟨by decide, h.forall_spellInner inner hinner, List.forall_mem_singleton.mpr (by decide)⟩

end Tag

def spellChain (tags : List Tag) : List Char :=
  ['>'].intercalate (tags.map Tag.spell)

def spelling (chains : List (List Tag)) : String :=
  .ofList (['+'].intercalate (chains.map spellChain))

section

variable {tags : List Tag}

theorem plus_not_mem_spellChain (h : ∀ t ∈ tags, t.Writable) : '+' ∉ spellChain tags := by
  intro hplus
  rcases mem_of_mem_intercalate hplus with hsep | ⟨s, hs, hplus⟩
  · exact absurd hsep (by decide)
  · obtain ⟨t, ht, rfl⟩ := List.mem_map.mp hs
    exact absurd List.mem_cons_self ((h t ht).forall_spell _ hplus)

theorem split_spellChain (hne : tags ≠ []) (h : ∀ t ∈ tags, t.Writable) :
    split '>' (spellChain tags) = tags.map Tag.spell := by
  apply split_intercalate (mt List.map_eq_nil_iff.mp hne)
  rw [List.forall_mem_map]
  exact fun t ht hend => (h t ht).forall_spell _ hend (by decide)

theorem isChain_spellChain (hne : tags ≠ []) (h : ∀ t ∈ tags, t.Writable) :
    IsChain (spellChain tags) (chain (tags.map Tag.node)) := by
  refine ⟨tags.map Tag.element, ?_, ?_⟩
  · rw [split_spellChain hne h, List.forall₂_map_left_iff, List.forall₂_map_right_iff,
      List.forall₂_same]
    exact fun t ht => (h t ht).read_spell
  · rw [List.map_map]
    exact congrArg chain (List.map_congr_left fun t ht => (h t ht).node_element)

end

/--
What is written for chains of elements is read back as a group of the chains, in which every
element holds the next one and has the name, the classes and the attributes that are meant.
-/
theorem parse_spelling {chains : List (List Tag)} (hne : chains ≠ [])
    (h : ∀ tags ∈ chains, tags ≠ [] ∧ ∀ t ∈ tags, t.Writable) :
    parse (spelling chains) =
      .ok { children := chains.map fun tags => chain (tags.map Tag.node) } := by
  have hsplit : split '+' (spelling chains).toList = chains.map spellChain := by
    rw [spelling, String.toList_ofList]
    apply split_intercalate (mt List.map_eq_nil_iff.mp hne)
    rw [List.forall_mem_map]
    exact fun tags htags => plus_not_mem_spellChain (h tags htags).2
  refine parse_ok_iff.mpr ⟨_, ?_, rfl⟩
  rw [hsplit, List.forall₂_map_left_iff, List.forall₂_map_right_iff, List.forall₂_same]
  exact fun tags htags => isChain_spellChain (h tags htags).1 (h tags htags).2

def knottedTags : List (List Tag) := [
  [{ name := "ul"
     classes := ["a]", "b c"]
     attributes := some [⟨"x", some "[y]="⟩, ⟨"on\"", none⟩, ⟨"", some "q\"q"⟩] },
   { attributes := some [] },
   { classes := ["é="] }],
  [{ name := "!!!" }]]

theorem parse_spelling_knottedTags :
    parse "ul.a].b c[x=[y]= on\" =q\"q]>[]>.é=+!!!" = .ok { children := [
      { name := some "ul"
        attributes := [⟨"class", some "a] b c"⟩, ⟨"x", some "[y]="⟩, ⟨"on\"", none⟩,
          ⟨"", some "q\"q"⟩]
        children := [{
          name := some "div"
          children := [{ name := some "div", attributes := [⟨"class", some "é="⟩] }] }] },
      { name := some "!!!" }] } :=
  @parse_spelling knottedTags (by decide) (by decide)

end Html

end Shorthand
