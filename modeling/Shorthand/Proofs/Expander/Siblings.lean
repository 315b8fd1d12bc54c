import Shorthand.Expander.Small
import Shorthand.Proofs.Dict
import Shorthand.Proofs.Except
import Shorthand.Proofs.Html.Format
import Shorthand.Proofs.Html.Stages
import Shorthand.Proofs.Text.Split

/-! # Siblings expand one by one

Both families read what stands between the `+` piece by piece, no stage looks from one sibling to
another, and output that is not pretty is written for one after the other. So a sum expands to the
expansions of its parts. Markup numbers its tabstops on; a stylesheet takes the numbers of its
tabstops from the text and puts every declaration on a line of its own.
-/

namespace Shorthand

open Node

theorem Expander.runStages_actsOnEach {stages : List (Stage × (Node → Node))}
    (h : ∀ s ∈ stages, ∃ item, ActsOnEach s.2 item) :
    ∃ item, ActsOnEach (runStages stages) item := by
  induction stages with
  | nil => exact ⟨id, .id⟩
  | cons s stages ih =>
    obtain ⟨item, hs⟩ := h s List.mem_cons_self
    obtain ⟨rest, hrest⟩ := ih fun t ht => h t (List.mem_cons_of_mem s ht)
    exact ⟨rest ∘ item, hrest.comp hs⟩

namespace Css

theorem resolveSnippets_actsOnEach (r : Registry) :
    ActsOnEach (resolveSnippets r) (resolveItem r) :=
  fun _ => rfl

theorem format_append (p : Profile) (dialect : String) (options : FormatOptions)
    {first second : List Node} (hf : first ≠ []) (hs : second ≠ []) :
    format p dialect options { children := first ++ second } =
      format p dialect options { children := first } ++ "\n" ++
        format p dialect options { children := second } := by
  have hf' : first.map (declaration p options.field) ≠ [] := mt List.map_eq_nil_iff.mp hf
  have hs' : second.map (declaration p options.field) ≠ [] := mt List.map_eq_nil_iff.mp hs
  rw [format, List.map_append, String.intercalate_append_of_ne_nil hf' hs']
  rfl

end Css

namespace Options

variable {o : Options}

/-- The same options, tabstops numbered on from `k`. -/
def numberedFrom (o : Options) (k : Nat) : Options :=
  { o with field := some (o.resolve.field.after k) }

theorem resolve_numberedFrom_of_plain (h : o.resolve.field = Field.plain) (k : Nat) :
    (o.numberedFrom k).resolve = o.resolve := by
  have hfield : o.resolve.field.after k = o.resolve.field := by rw [h, Field.plain_after]
  change { o.resolve with
    field := o.resolve.field.after k
    format := { o.resolve.format with field := o.resolve.field.after k } } = o.resolve
  rw [hfield]
  rfl

theorem wantsPretty_resolve (hp : o.format.get? "pretty" ≠ some (.bool true)) :
    Html.wantsPretty o.resolve.format = false := by
  have hget : o.resolve.format.get? "pretty" = o.format.get? "pretty" :=
    Dict.get?_erase_of_ne (by decide) _
  rw [Bool.eq_false_iff, ne_eq, Html.wantsPretty_iff, hget]
  exact hp

end Options

namespace Small

variable {ε : Type} {o : Options} {item : Node → Node}

def readPieces (read : List Char → Except ε Node) (fault : ε → ParseError) (s : String) :
    Except ParseError (List Node) :=
  ((Text.split '+' s.toList).mapM read).mapError fault

theorem readPieces_plus (read : List Char → Except ε Node) (fault : ε → ParseError)
    (x y : String) :
    readPieces read fault (x ++ "+" ++ y) = do
      let first ← readPieces read fault x
      let second ← readPieces read fault y
      return first ++ second := by
  have hsplit : Text.split '+' (x ++ "+" ++ y).toList =
      Text.split '+' x.toList ++ Text.split '+' y.toList := by
    rw [String.toList_append, String.toList_append, List.append_assoc]
    exact Text.split_append_cons '+' x.toList y.toList
  simp only [readPieces, hsplit, List.mapM_append]
  cases (Text.split '+' x.toList).mapM read with
  | error e => rfl
  | ok first => cases (Text.split '+' y.toList).mapM read <;> rfl

theorem readPieces_ne_nil {read : List Char → Except ε Node} {fault : ε → ParseError}
    {s : String} {trees : List Node} (h : readPieces read fault s = .ok trees) : trees ≠ [] := by
  rw [readPieces] at h
  cases hread : (Text.split '+' s.toList).mapM read with
  | error e => rw [hread] at h; cases h
  | ok nodes =>
    rw [hread] at h
    cases h
    rintro rfl
    exact Text.split_ne_nil '+' s.toList (List.forall₂_nil_right_iff.mp (mapM_ok_iff.mp hread))

def siblings : Family → String → Except ParseError (List Node)
  | .markup => readPieces Html.parseChain .markup
  | .stylesheet => readPieces Css.parseItem .stylesheet

theorem siblings_plus (family : Family) (x y : String) :
    siblings family (x ++ "+" ++ y) = do
      let first ← siblings family x
      let second ← siblings family y
      return first ++ second := by
  cases family <;> exact readPieces_plus ..

theorem siblings_ne_nil {family : Family} {s : String} {trees : List Node}
    (h : siblings family s = .ok trees) : trees ≠ [] := by
  cases family <;> exact readPieces_ne_nil h

theorem mapError_map {α β ε' : Type} (x : Except ε α) (f : α → β) (g : ε → ε') :
    (x.map f).mapError g = (x.mapError g).map f := by
  cases x <;> rfl

theorem parser_eq_siblings (family : Family) (s : String) :
    expander.parser family s = (siblings family s).map fun children => { children } := by
  cases family <;> exact mapError_map ..

/-- Without inserted text a call does the same to each sibling, whatever its tabstop writer. -/
theorem stages_actsOnEach (ht : o.text = none) :
    ∃ item, ActsOnEach (Expander.runStages (expander.stages o.resolve)) item := by
  apply Expander.runStages_actsOnEach
  intro s hs
  cases hf : o.family with
  | markup =>
    have htext : o.resolve.text = none := ht
    rw [Expander.stages, show o.resolve.family = .markup from hf] at hs
    simp only [List.mem_cons, List.not_mem_nil, or_false] at hs
    rcases hs with rfl | rfl | rfl
    · exact ⟨_, htext ▸ Html.transform_actsOnEach o.resolve.addons⟩
    · exact ⟨_, Html.resolveSnippets_actsOnEach o.resolve.snippets⟩
    · exact ⟨_, Html.resolveVariables_actsOnEach o.resolve.vars⟩
  | stylesheet =>
    rw [Expander.stages, show o.resolve.family = .stylesheet from hf] at hs
    obtain rfl := List.mem_singleton.mp hs
    exact ⟨_, Css.resolveSnippets_actsOnEach o.resolve.snippets⟩

theorem parse_eq_siblings (h : ActsOnEach (Expander.runStages (expander.stages o.resolve)) item)
    (s : String) :
    expander.parse (.text s) o.resolve =
      (siblings o.family s).map fun trees => { children := trees.map item } := by
  change (expander.parser o.family s).map _ = _
  rw [parser_eq_siblings]
  cases siblings o.family s with
  | error e => rfl
  | ok trees => exact congrArg Except.ok (h trees)

theorem format_of_markup (hf : o.family = .markup) (tree : Node) :
    expander.format o.resolve tree =
      (Html.written o.resolve.profile o.resolve.format tree).out := by
  rw [Expander.format, show o.resolve.family = .markup from hf]
  exact Html.format_eq_written _ o.resolve.dialect _ tree

theorem format_append_of_markup (hf : o.family = .markup)
    (hp : o.format.get? "pretty" ≠ some (.bool true)) (first second : List Node) :
    let k := (Html.written o.resolve.profile o.resolve.format { children := first }).tabstops
    expander.format o.resolve { children := first ++ second } =
      expander.format o.resolve { children := first } ++
        expander.format (o.numberedFrom k).resolve { children := second } := by
  intro k
  have hk : (o.numberedFrom k).family = .markup := hf
  rw [format_of_markup hf, format_of_markup hf, format_of_markup hk,
    Html.written_append (Options.wantsPretty_resolve hp), Html.Written.out_append]
  rfl

theorem format_append_of_stylesheet (hf : o.family = .stylesheet) {first second : List Node}
    (hfirst : first ≠ []) (hsecond : second ≠ []) :
    expander.format o.resolve { children := first ++ second } =
      expander.format o.resolve { children := first } ++ "\n" ++
        expander.format o.resolve { children := second } := by
  have hformat : expander.format o.resolve =
      Css.format o.resolve.profile o.resolve.dialect o.resolve.format := by
    funext tree
    rw [Expander.format, show o.resolve.family = .stylesheet from hf]
    rfl
  rw [hformat, Css.format_append _ _ _ hfirst hsecond]

/-- The number of tabstops in the markup for a text, none if it cannot be read. -/
def tabstops (s : String) (o : Options) : Nat :=
  match expander.parse (.text s) o.resolve with
  | .ok tree => (Html.written o.resolve.profile o.resolve.format tree).tabstops
  | .error _ => 0

theorem expand_eq_siblings (h : ActsOnEach (Expander.runStages (expander.stages o.resolve)) item)
    (s : String) :
    expand s o = (siblings o.family s).map fun trees =>
      expander.format o.resolve { children := trees.map item } := by
  change (expander.parse (.text s) o.resolve).map _ = _
  rw [parse_eq_siblings h]
  cases siblings o.family s <;> rfl

theorem tabstops_eq_siblings
    (h : ActsOnEach (Expander.runStages (expander.stages o.resolve)) item) {s : String}
    {trees : List Node} (hs : siblings o.family s = .ok trees) :
    tabstops s o =
      (Html.written o.resolve.profile o.resolve.format { children := trees.map item }).tabstops := by
  rw [tabstops, parse_eq_siblings h, hs]
  rfl

/--
A sum fails with the fault of its first part that fails. Otherwise the first part is followed by
the second: directly in markup, where its tabstops are numbered on from those of the first part,
and on a new line in a stylesheet.
-/
theorem expand_plus (x y : String) (o : Options) (ht : o.text = none)
    (hp : o.format.get? "pretty" ≠ some (.bool true)) :
    let whole := expand (x ++ "+" ++ y) o
    match expand x o, expand y o with
    | .error e, _ => whole = .error e
    | .ok _, .error e => whole = .error e
    | .ok a, .ok b =>
      match o.family with
      | .markup => ∃ b', expand y (o.numberedFrom (tabstops x o)) = .ok b' ∧
          whole = .ok (a ++ b') ∧ (o.resolve.field = Field.plain → b' = b)
      | .stylesheet => whole = .ok (a ++ "\n" ++ b) := by
  obtain ⟨item, h⟩ := stages_actsOnEach ht
  intro whole
  have hwhole : whole = (siblings o.family (x ++ "+" ++ y)).map fun trees =>
      expander.format o.resolve { children := trees.map item } := expand_eq_siblings h _
  rw [siblings_plus] at hwhole
  rw [expand_eq_siblings h x, expand_eq_siblings h y]
  cases hx : siblings o.family x with
  | error e => rw [hx] at hwhole; exact hwhole
  | ok first =>
    cases hy : siblings o.family y with
    | error e => rw [hx, hy] at hwhole; exact hwhole
    | ok second =>
      have hsum : whole = .ok (expander.format o.resolve
          { children := first.map item ++ second.map item }) := by
        rw [hwhole, hx, hy, ← List.map_append]
        rfl
      cases hf : o.family with
      | markup =>
        have hrest : expand y (o.numberedFrom (tabstops x o)) =
            (siblings o.family y).map fun trees =>
              expander.format (o.numberedFrom (tabstops x o)).resolve
                { children := trees.map item } :=
          expand_eq_siblings (o := o.numberedFrom (tabstops x o)) h y
        rw [hy] at hrest
        refine ⟨_, hrest, ?_, ?_⟩
        · rw [hsum, format_append_of_markup hf hp, ← tabstops_eq_siblings h hx]
        · intro hplain
          rw [Options.resolve_numberedFrom_of_plain hplain]
      | stylesheet =>
        have hfirst : first.map item ≠ [] := mt List.map_eq_nil_iff.mp (siblings_ne_nil hx)
        have hsecond : second.map item ≠ [] := mt List.map_eq_nil_iff.mp (siblings_ne_nil hy)
        change whole = .ok (_ ++ "\n" ++ _)
        rw [hsum, format_append_of_stylesheet hf hfirst hsecond]

def numberedOptions : Options where
  field := some fun index _ => "$" ++ toString index
  snippets := .registry {}
  format := .obj [("pretty", .bool false)]

theorem expand_plus_numbered :
    numberedOptions.text = none ∧ numberedOptions.format.get? "pretty" ≠ some (.bool true) ∧
      expand ("ul>li" ++ "+" ++ "p") numberedOptions = .ok "<ul><li>$1</li></ul><p>$2</p>" := by
  have hget : numberedOptions.format.get? "pretty" = some (.bool false) := by rfl
  have hp : numberedOptions.format.get? "pretty" ≠ some (.bool true) := by
    rw [hget]
    nofun
  have hx : expand "ul>li" numberedOptions = .ok "<ul><li>$1</li></ul>" := by rfl
  have hy : expand "p" numberedOptions = .ok "<p>$1</p>" := by rfl
  have hk : tabstops "ul>li" numberedOptions = 1 := by rfl
  have hrest : expand "p" (numberedOptions.numberedFrom 1) = .ok "<p>$2</p>" := by rfl
  have h := expand_plus "ul>li" "p" numberedOptions rfl hp
  simp only [hx, hy] at h
  obtain ⟨b, hb, hwhole, -⟩ := h
  rw [hk, hrest] at hb
  cases hb
  exact ⟨rfl, hp, hwhole⟩

end Small

end Shorthand
