import Shorthand.Css
import Shorthand.Proofs.Except
import Shorthand.Proofs.Text.Blank

/-! # Reading stylesheet abbreviations

An abbreviation is read when each of its items begins with a property, and its tree keeps all of
it: names and values written one after the other, with `+` between the items, are the abbreviation
again.
-/

namespace Shorthand.Css

open Text

variable {item : List Char} {n tree : Node} {s : String} {e : ParseError}

def NameChar (c : Char) : Prop :=
  c.isAlpha ∨ c = '@'

def Begins (item : List Char) : Prop :=
  ∃ c ∈ item.head?, NameChar c

/--
The node of an item. Its name is the longest run of name characters at the start, and its value
is what follows, if anything does.
-/
structure IsItem (item : List Char) (n : Node) : Prop where
  cut : ∃ name rest, item = name ++ rest ∧ (∀ c ∈ name, NameChar c) ∧
    (∀ c ∈ rest.head?, ¬ NameChar c) ∧ n.name = some (.ofList name) ∧
    n.value = if rest = [] then none else some (.ofList rest)
  attributes : n.attributes = []
  children : n.children = []

def itemText (n : Node) : String :=
  n.name.getD "" ++ n.value.getD ""

def text (tree : Node) : String :=
  "+".intercalate (tree.children.map itemText)

theorem isNameChar_iff {c : Char} : isNameChar c ↔ NameChar c := by
  simp [isNameChar, NameChar]

theorem begins_iff : Begins item ↔ item.takeWhile isNameChar ≠ [] := by
  unfold Begins
  simp only [← isNameChar_iff]
  cases item with
  | nil => simp
  | cons c item =>
    by_cases hc : isNameChar c = true
    · simp [hc]
    · simp [hc]

instance : DecidablePred Begins := fun _ =>
  decidable_of_iff' _ begins_iff

theorem parseItem_of_begins (h : Begins item) : parseItem item = .ok {
    name := some (.ofList (item.takeWhile isNameChar))
    value := if (item.dropWhile isNameChar).isEmpty then none
      else some (.ofList (item.dropWhile isNameChar)) } := by
  have hname : ¬ (item.takeWhile isNameChar).isEmpty :=
    mt List.isEmpty_iff.mp (begins_iff.mp h)
  exact if_neg hname

theorem parseItem_of_not_begins (h : ¬ Begins item) :
    parseItem item = .error (.noProperty (.ofList item)) := by
  have hname : (item.takeWhile isNameChar).isEmpty :=
    List.isEmpty_iff.mpr (not_not.mp (mt begins_iff.mpr h))
  exact if_pos hname

theorem exists_parseItem_iff : (∃ n, parseItem item = .ok n) ↔ Begins item := by
  constructor
  · rintro ⟨n, hn⟩
    by_contra h
    rw [parseItem_of_not_begins h] at hn
    cases hn
  · exact fun h => ⟨_, parseItem_of_begins h⟩

theorem parseItem_error_iff :
    parseItem item = .error e ↔ ¬ Begins item ∧ e = .noProperty (.ofList item) := by
  by_cases h : Begins item
  · simp [parseItem_of_begins h, h]
  · simp [parseItem_of_not_begins h, h, eq_comm]

theorem isItem_of_parseItem (hp : parseItem item = .ok n) : IsItem item n := by
  have h : Begins item := exists_parseItem_iff.mp ⟨n, hp⟩
  rw [parseItem_of_begins h] at hp
  cases hp
  refine ⟨⟨item.takeWhile isNameChar, item.dropWhile isNameChar, ?_, ?_, ?_, rfl, ?_⟩, rfl, rfl⟩
  · exact List.takeWhile_append_dropWhile.symm
  · exact fun c hc => isNameChar_iff.mp (List.mem_takeWhile_imp hc)
  · exact fun c hc => mt isNameChar_iff.mpr (by simp [head?_dropWhile isNameChar item c hc])
  · simp only [List.isEmpty_iff]

theorem IsItem.toList_itemText (h : IsItem item n) : (itemText n).toList = item := by
  obtain ⟨name, rest, rfl, -, -, hname, hvalue⟩ := h.cut
  rw [itemText, hname, hvalue, String.toList_append]
  by_cases hrest : rest = []
  · simp [hrest]
  · simp [hrest]

theorem parse_ok_iff : parse s = .ok tree ↔ ∃ children,
    List.Forall₂ (fun item n => parseItem item = .ok n) (split '+' s.toList) children ∧
      { children } = tree := by
  simp only [parse, map_ok_iff, mapM_ok_iff]

theorem parse_error_iff : parse s = .error e ↔ ∃ before item after,
    split '+' s.toList = before ++ item :: after ∧ (∀ i ∈ before, Begins i) ∧ ¬ Begins item ∧
      e = .noProperty (.ofList item) := by
  simp only [parse, map_error_iff, mapM_error_iff, exists_parseItem_iff, parseItem_error_iff]

theorem exists_parse_iff :
    (∃ tree, parse s = .ok tree) ↔ ∀ item ∈ split '+' s.toList, Begins item := by
  simp only [parse, exists_map_ok_iff, exists_mapM_ok_iff, exists_parseItem_iff]

theorem forall₂_isItem_of_parse (h : parse s = .ok tree) :
    List.Forall₂ IsItem (split '+' s.toList) tree.children := by
  obtain ⟨children, hchildren, rfl⟩ := parse_ok_iff.mp h
  exact hchildren.imp fun _ _ => isItem_of_parseItem

theorem text_of_parse (h : parse s = .ok tree) : text tree = s := by
  have hitems : List.Forall₂ (· = ·) (split '+' s.toList)
      (tree.children.map fun n => (itemText n).toList) := by
    rw [List.forall₂_map_right_iff]
    exact (forall₂_isItem_of_parse h).imp fun _ _ hn => hn.toList_itemText.symm
  rw [List.forall₂_eq_eq_eq] at hitems
  rw [← String.toList_inj, text, String.toList_intercalate, List.map_map]
  calc ['+'].intercalate (tree.children.map fun n => (itemText n).toList)
    _ = ['+'].intercalate (split '+' s.toList) := by rw [hitems]
    _ = s.toList := intercalate_split '+' s.toList

/--
An abbreviation is read exactly when each of its items begins with a property, and otherwise the
first item that does not is reported. The tree that is read is a group of the nodes of the items
in their order, and writing them gives the abbreviation, so no other one has this tree.
-/
theorem parse_lossless (s : String) :
    ((∃ tree, parse s = .ok tree) ↔ ∀ item ∈ split '+' s.toList, Begins item) ∧
    (∀ e, parse s = .error e ↔ ∃ before item after,
      split '+' s.toList = before ++ item :: after ∧ (∀ i ∈ before, Begins i) ∧
        ¬ Begins item ∧ e = .noProperty (.ofList item)) ∧
    ∀ tree, parse s = .ok tree →
      tree = { children := tree.children } ∧
      List.Forall₂ IsItem (split '+' s.toList) tree.children ∧
      text tree = s ∧ ∀ t, parse t = .ok tree → t = s := by
  refine ⟨exists_parse_iff, fun e => parse_error_iff, fun tree h => ⟨?_, ?_, ?_, ?_⟩⟩
  · obtain ⟨children, -, rfl⟩ := parse_ok_iff.mp h
    rfl
  · exact forall₂_isItem_of_parse h
  · exact text_of_parse h
  · intro t ht
    rw [← text_of_parse h, ← text_of_parse ht]

theorem parse_lossless_at_rule :
    ∃ tree, parse "@m-é:1+bd" = .ok tree ∧ tree.children.map (·.value) = [some "-é:1", none] ∧
      text tree = "@m-é:1+bd" ∧ parse "@m+é" = .error (.noProperty "é") := by
  have h : parse "@m-é:1+bd" = .ok { children := [
      { name := some "@m", value := some "-é:1" }, { name := some "bd" }] } := by rfl
  obtain ⟨-, -, htext, -⟩ := (parse_lossless "@m-é:1+bd").2.2 _ h
  refine ⟨_, h, rfl, htext, ((parse_lossless "@m+é").2.1 _).mpr ?_⟩
  exact ⟨[['@', 'm']], ['é'], [], rfl, by decide, by decide, rfl⟩

end Shorthand.Css
