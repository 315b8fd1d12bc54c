import Mathlib.Data.List.ReduceOption
import Shorthand.Settings

/-! # Selection of sections

Four entries of the settings apply to a family, a dialect and a project. Layered options name the
family and the dialect under which their sections were selected, so they resolve to the same ones
and select the same sections again.
-/

namespace Shorthand

namespace Family

variable {name dialect : String}

theorem nonEmpty_some (h : name ≠ "") : nonEmpty (some name) = some name := by
  simp [nonEmpty, h]

@[simp] theorem nonEmpty_nonEmpty (s : Option String) : nonEmpty (nonEmpty s) = nonEmpty s := by
  simp [nonEmpty]

theorem ne_empty_of_nonEmpty {s : Option String} (h : nonEmpty s = some name) : name ≠ "" := by
  simpa using (Option.filter_eq_some_iff.mp h).2

theorem nonEmpty_name (f : Family) : nonEmpty (some f.name) = some f.name :=
  nonEmpty_some (by cases f <;> decide)

@[simp] theorem ofName_name (f : Family) : ofName f.name = f := by
  cases f <;> rfl

@[simp] theorem classify_name (f : Family) (dialect : String) :
    classify (some f.name) dialect = f := by
  rw [classify, nonEmpty_name]; exact ofName_name f

theorem dialectOr_some (explicit : Option String) (h : dialect ≠ "") :
    dialectOr explicit (some dialect) = dialect := by
  rw [dialectOr, nonEmpty_some h]; rfl

theorem dialectOr_ne_empty (explicit dialect : Option String) :
    dialectOr explicit dialect ≠ "" := by
  rw [dialectOr]
  cases h : nonEmpty dialect with
  | some d => exact ne_empty_of_nonEmpty h
  | none =>
    cases ((nonEmpty explicit).map ofName).getD .markup <;> decide

theorem nonEmpty_ite (a b : Option String) :
    nonEmpty (if a = none ∨ a = some "" then b else a) = (nonEmpty a).or (nonEmpty b) := by
  cases a with
  | none => rfl
  | some name =>
    by_cases hn : name = ""
    · subst hn
      rfl
    · simp [hn, nonEmpty_some]

@[simp] theorem dialectOr_nonEmpty (explicit dialect : Option String) :
    dialectOr (nonEmpty explicit) (nonEmpty dialect) = dialectOr explicit dialect := by
  simp only [dialectOr, nonEmpty_nonEmpty]

@[simp] theorem classify_nonEmpty (explicit : Option String) (dialect : String) :
    classify (nonEmpty explicit) dialect = classify explicit dialect := by
  simp only [classify, nonEmpty_nonEmpty]

end Family

/-- The options with the type and the dialect of a context where they have none of their own. -/
def Options.within (o : Options) (c : Context) : Options :=
  { o with
    kind := if o.kind = none ∨ o.kind = some "" then c.kind else o.kind
    dialect := if o.dialect = none ∨ o.dialect = some "" then c.dialect else o.dialect }

namespace Settings

variable (s t : Settings) (c : Context) (o : Options)

theorem kindFor_empty : kindFor {} o = Family.nonEmpty o.kind :=
  Option.or_none

theorem dialectFor_empty : dialectFor {} o = o.resolve.dialect := by
  change Family.dialectOr (kindFor {} o) ((Family.nonEmpty o.dialect).or none) = _
  rw [kindFor_empty, Option.or_none, Family.dialectOr, Family.nonEmpty_nonEmpty,
    Family.nonEmpty_nonEmpty]
  rfl

theorem familyFor_empty : familyFor {} o = o.family := by
  rw [familyFor, kindFor_empty, dialectFor_empty, Family.classify, Family.nonEmpty_nonEmpty]
  rfl

theorem sectionsFor_empty : ({} : Settings).sectionsFor {} o = [] := by
  rw [sectionsFor]
  cases familyFor {} o <;> rfl

/--
The entries for the family and the dialect, in general and for the project. A missing project
counts as one without entries.
-/
def entries (family : Family) (dialect : String) (project : Option String) :
    List (Option Section) :=
  let scope := (project.bind s.projects.get?).getD {}
  match family with
  | .markup => [s.globals.markup, s.dialects.get? dialect,
      scope.globals.markup, scope.dialects.get? dialect]
  | .stylesheet => [s.globals.stylesheet, s.dialects.get? dialect,
      scope.globals.stylesheet, scope.dialects.get? dialect]

/-- The bags of the sections that apply, the least specific first, then the caller's. -/
def bags (family : Family) (dialect : String) (project : Option String) (pick : Section → Json)
    (top : Json) : List Json :=
  (s.entries family dialect project).reduceOption.map pick ++ [top]

theorem entries_eq (family : Family) (dialect : String) (project : Option String) :
    s.entries family dialect project =
      let scope := (project.bind s.projects.get?).getD {}
      [s.globals.get? family, s.dialects.get? dialect,
        scope.globals.get? family, scope.dialects.get? dialect] := by
  cases family <;> rfl

theorem sections_eq_entries (family : Family) (dialect : String) (project : Option String) :
    s.sections family dialect project = (s.entries family dialect project).reduceOption := by
  have hempty : (({} : Scope).globals.get? family) = none := by cases family <;> rfl
  rw [entries_eq]
  cases h : project.bind s.projects.get? with
  | none =>
    simp only [sections, Scope.sections, h, Option.map_none, Option.getD_none, hempty]
    cases s.globals.get? family <;> cases s.dialects.get? dialect <;> rfl
  | some scope =>
    simp only [sections, Scope.sections, h, Option.map_some, Option.getD_some]
    cases s.globals.get? family <;> cases s.dialects.get? dialect <;>
      cases scope.globals.get? family <;> cases scope.dialects.get? dialect <;> rfl

theorem dialectFor_ne_empty : dialectFor c o ≠ "" :=
  Family.dialectOr_ne_empty _ _

@[simp] theorem family_optionsWith : (s.optionsWith c o).family = familyFor c o :=
  Family.classify_name ..

@[simp] theorem resolve_family_optionsWith :
    (s.optionsWith c o).resolve.family = familyFor c o :=
  s.family_optionsWith c o

@[simp] theorem resolve_dialect_optionsWith :
    (s.optionsWith c o).resolve.dialect = dialectFor c o :=
  Family.dialectOr_some _ (dialectFor_ne_empty c o)

theorem kindFor_optionsWith : kindFor c (s.optionsWith c o) = some (familyFor c o).name := by
  change (Family.nonEmpty (some (familyFor c o).name)).or _ = _
  rw [Family.nonEmpty_name]; rfl

@[simp] theorem dialectFor_optionsWith : dialectFor c (s.optionsWith c o) = dialectFor c o := by
  have hd : dialectFor c o ≠ "" := dialectFor_ne_empty c o
  change Family.dialectOr _ ((Family.nonEmpty (some (dialectFor c o))).or _) = _
  rw [Family.nonEmpty_some hd]
  exact Family.dialectOr_some _ hd

@[simp] theorem familyFor_optionsWith : familyFor c (s.optionsWith c o) = familyFor c o := by
  rw [familyFor, kindFor_optionsWith, Family.classify_name]

/-- Options layered once select the sections they were layered with. -/
@[simp] theorem sectionsFor_optionsWith :
    s.sectionsFor c (t.optionsWith c o) = s.sectionsFor c o := by
  simp [sectionsFor]

theorem kindFor_eq_within : kindFor c o = Family.nonEmpty (o.within c).kind :=
  (Family.nonEmpty_ite o.kind c.kind).symm

theorem dialectFor_eq_within : dialectFor c o = (o.within c).resolve.dialect := by
  have hd : (Family.nonEmpty o.dialect).or (Family.nonEmpty c.dialect) =
      Family.nonEmpty (o.within c).dialect := (Family.nonEmpty_ite o.dialect c.dialect).symm
  rw [dialectFor, kindFor_eq_within, hd, Family.dialectOr_nonEmpty]
  rfl

theorem familyFor_eq_within : familyFor c o = (o.within c).family := by
  rw [familyFor, kindFor_eq_within, dialectFor_eq_within, Family.classify_nonEmpty]
  rfl

theorem bags_resolve_optionsWith (pick : Section → Json) (top : Json) :
    let cfg := (s.optionsWith c o).resolve
    s.bags cfg.family cfg.dialect c.project pick top = layers pick (s.sectionsFor c o) top := by
  intro cfg
  simp only [cfg, resolve_family_optionsWith, resolve_dialect_optionsWith]
  rw [bags, layers, sectionsFor, sections_eq_entries]

/--
Sections are selected for the family and the dialect that layered options resolve to, and what is
layered are the bags of these sections. The family and the dialect are the ones of the caller's
options once the context has filled in what they leave out.
-/
theorem selection_agrees_with_resolve (s : Settings) (c : Context) (o : Options) :
    let layered := s.optionsWith c o
    let cfg := layered.resolve
    let bags := s.bags cfg.family cfg.dialect c.project
    (cfg.family = familyFor c o ∧ cfg.dialect = dialectFor c o ∧
        s.sectionsFor c o = s.sections cfg.family cfg.dialect c.project) ∧
      (layered.vars = Json.mergeLayers (bags (·.vars) o.vars) ∧
        layered.addons = Json.mergeLayers (bags (·.addons) o.addons) ∧
        layered.format = Json.mergeLayers (bags (·.format) o.format) ∧
        layered.profile = (match o.profile with
          | .resolved p => .resolved p
          | .options top => .options (Json.mergeLayers (bags (·.profile) top))) ∧
        layered.snippets = (match o.snippets with
          | .registry r => .registry r
          | .raw top => .raw (.arr ((bags (·.snippets) top).flatMap snippetItems)))) ∧
      cfg.family = (o.within c).resolve.family ∧
      cfg.dialect = (o.within c).resolve.dialect ∧ cfg.dialect ≠ "" := by
  intro layered cfg bags
  have hf : cfg.family = familyFor c o := s.resolve_family_optionsWith c o
  have hd : cfg.dialect = dialectFor c o := s.resolve_dialect_optionsWith c o
  have hbags : bags = fun pick top => layers pick (s.sectionsFor c o) top := by
    funext pick top
    exact s.bags_resolve_optionsWith c o pick top
  refine ⟨⟨hf, hd, ?_⟩, ?_, ?_, ?_, ?_⟩
  · rw [sectionsFor, hf, hd]
  · rw [hbags]
    exact ⟨rfl, rfl, rfl, rfl, rfl⟩
  · exact hf.trans (familyFor_eq_within c o)
  · exact hd.trans (dialectFor_eq_within c o)
  · rw [hd]
    exact dialectFor_ne_empty c o

end Settings

end Shorthand
