import Shorthand.Proofs.Dict
import Shorthand.Proofs.Settings.Selection

/-! # Sections that do not apply

Layered options are determined by the entries for the family, the dialect and the project. All
other sections can be changed or dropped, and a project that is not known counts as none.
-/

namespace Shorthand

namespace Dict

variable {α : Type u}

/-- The entry under one key alone. -/
def restrict (d : Dict α) (key : String) : Dict α :=
  (d.get? key).toList.map (key, ·)

@[simp] theorem get?_restrict (d : Dict α) (key : String) :
    (d.restrict key).get? key = d.get? key := by
  rw [restrict]
  cases d.get? key with
  | none => rfl
  | some a =>
    change get? [(key, a)] key = some a
    rw [get?_cons, if_pos rfl]

end Dict

def FamilySections.restrict (s : FamilySections) : Family → FamilySections
  | .markup => { markup := s.markup }
  | .stylesheet => { stylesheet := s.stylesheet }

def Scope.restrict (s : Scope) (family : Family) (dialect : String) : Scope where
  globals := s.globals.restrict family
  dialects := s.dialects.restrict dialect

namespace Settings

variable {s t : Settings} {c : Context} {o : Options}

/-- The settings without any section for another family, dialect or project. -/
def restrict (s : Settings) (family : Family) (dialect : String) (project : Option String) :
    Settings where
  toScope := s.toScope.restrict family dialect
  projects := match project with
    | some name => (s.projects.restrict name).mapValues (·.restrict family dialect)
    | none => []

theorem get?_projects_restrict (s : Settings) (family : Family) (dialect : String)
    (project : Option String) :
    project.bind (s.restrict family dialect project).projects.get? =
      (project.bind s.projects.get?).map (·.restrict family dialect) := by
  cases project with
  | none => rfl
  | some name => simp [restrict]

theorem entries_restrict (s : Settings) (family : Family) (dialect : String)
    (project : Option String) :
    (s.restrict family dialect project).entries family dialect project =
      s.entries family dialect project := by
  simp only [entries, get?_projects_restrict]
  cases family <;> cases project.bind s.projects.get? <;>
    simp [restrict, Scope.restrict, FamilySections.restrict]

theorem optionsWith_congr (h : s.sectionsFor c o = t.sectionsFor c o) :
    s.optionsWith c o = t.optionsWith c o := by
  simp only [optionsWith, h]

theorem optionsWith_congr_entries
    (h : s.entries (familyFor c o) (dialectFor c o) c.project =
      t.entries (familyFor c o) (dialectFor c o) c.project) :
    s.optionsWith c o = t.optionsWith c o := by
  apply optionsWith_congr
  rw [sectionsFor, sectionsFor, sections_eq_entries, sections_eq_entries, h]

theorem optionsWith_unknownProject {name : String} (h : s.projects.get? name = none) :
    s.optionsWith { c with project := some name } o =
      s.optionsWith { c with project := none } o := by
  have hsections : s.sectionsFor { c with project := some name } o =
      s.sectionsFor { c with project := none } o := by
    change s.sections (familyFor c o) (dialectFor c o) (some name) =
      s.sections (familyFor c o) (dialectFor c o) none
    simp only [sections_eq_entries, entries, Option.bind_some, Option.bind_none, h]
  simp only [optionsWith, hsections]
  rfl

/--
Settings with the same entries for the family, the dialect and the project give the same options.
So whatever is there for another family, dialect or project has no influence, and neither has the
name of a project that is not known.
-/
theorem optionsWith_determined_by_entries (s : Settings) (c : Context) (o : Options) :
    let family := familyFor c o
    let dialect := dialectFor c o
    (∀ t : Settings, s.entries family dialect c.project = t.entries family dialect c.project →
      s.optionsWith c o = t.optionsWith c o) ∧
    s.optionsWith c o = (s.restrict family dialect c.project).optionsWith c o ∧
    ∀ name, s.projects.get? name = none →
      s.optionsWith { c with project := some name } o =
        s.optionsWith { c with project := none } o := by
  intro family dialect
  refine ⟨fun t h => optionsWith_congr_entries h, ?_, fun name => optionsWith_unknownProject⟩
  exact optionsWith_congr_entries (s.entries_restrict family dialect c.project).symm

def crowdedSettings : Settings where
  globals := {
    markup := some { vars := .obj [("lang", .str "ru")] }
    stylesheet := some { addons := .obj [("shortHex", .bool true)] } }
  dialects := [("html", { snippets := .str "xsl" }), ("scss", { format := .obj [] })]
  projects := [("p1", { dialects := [("scss", { snippets := .str "css" })] })]

def sparseSettings : Settings where
  globals := { markup := some { vars := .obj [("lang", .str "ru")] } }
  dialects := [("html", { snippets := .str "xsl" })]

theorem optionsWith_crowdedSettings :
    let c : Context := { dialect := some "html", project := some "p1" }
    crowdedSettings.entries .markup "html" (some "p1") =
        sparseSettings.entries .markup "html" (some "p1") ∧
      crowdedSettings.optionsWith c {} = sparseSettings.optionsWith c {} ∧
      sparseSettings.projects.get? "p1" = none ∧
      crowdedSettings.optionsWith c {} =
        sparseSettings.optionsWith { c with project := none } {} := by
  intro c
  have hentries : crowdedSettings.entries .markup "html" (some "p1") =
      sparseSettings.entries .markup "html" (some "p1") := by rfl
  have hproject : sparseSettings.projects.get? "p1" = none := rfl
  have hcrowded : crowdedSettings.optionsWith c {} = sparseSettings.optionsWith c {} :=
    (optionsWith_determined_by_entries crowdedSettings c {}).1 sparseSettings hentries
  have hsparse : sparseSettings.optionsWith c {} =
      sparseSettings.optionsWith { c with project := none } {} :=
    (optionsWith_determined_by_entries sparseSettings c {}).2.2 "p1" hproject
  exact ⟨hentries, hcrowded, hproject, hcrowded.trans hsparse⟩

end Settings

end Shorthand
