import Shorthand.Proofs.Json.Merge
import Shorthand.Proofs.Settings.Selection

/-! # Ordered options and settings

Options and settings are ordered if all their bags are. Layering ordered settings under ordered
options gives ordered options.
-/

namespace Shorthand

def ProfileSource.Ordered : ProfileSource → Prop
  | .resolved _ => True
  | .options v => v.Ordered

def SnippetSource.Ordered : SnippetSource → Prop
  | .registry _ => True
  | .raw v => v.Ordered

structure Options.Ordered (o : Options) : Prop where
  profile : o.profile.Ordered
  vars : o.vars.Ordered
  snippets : o.snippets.Ordered
  addons : o.addons.Ordered
  format : o.format.Ordered

instance : (p : ProfileSource) → Decidable p.Ordered
  | .resolved _ => isTrue trivial
  | .options v => inferInstanceAs (Decidable v.Ordered)

instance : (s : SnippetSource) → Decidable s.Ordered
  | .registry _ => isTrue trivial
  | .raw v => inferInstanceAs (Decidable v.Ordered)

instance (o : Options) : Decidable o.Ordered :=
  decidable_of_iff (o.profile.Ordered ∧ o.vars.Ordered ∧ o.snippets.Ordered ∧ o.addons.Ordered ∧
    o.format.Ordered)
    ⟨fun ⟨h₁, h₂, h₃, h₄, h₅⟩ => ⟨h₁, h₂, h₃, h₄, h₅⟩,
      fun h => ⟨h.profile, h.vars, h.snippets, h.addons, h.format⟩⟩

structure Section.Ordered (s : Section) : Prop where
  format : s.format.Ordered
  profile : s.profile.Ordered
  vars : s.vars.Ordered
  snippets : s.snippets.Ordered
  addons : s.addons.Ordered

instance (s : Section) : Decidable s.Ordered :=
  decidable_of_iff (s.format.Ordered ∧ s.profile.Ordered ∧ s.vars.Ordered ∧ s.snippets.Ordered ∧
    s.addons.Ordered)
    ⟨fun ⟨h₁, h₂, h₃, h₄, h₅⟩ => ⟨h₁, h₂, h₃, h₄, h₅⟩,
      fun h => ⟨h.format, h.profile, h.vars, h.snippets, h.addons⟩⟩

structure FamilySections.Ordered (s : FamilySections) : Prop where
  markup : ∀ sec ∈ s.markup, sec.Ordered
  stylesheet : ∀ sec ∈ s.stylesheet, sec.Ordered

structure Scope.Ordered (s : Scope) : Prop where
  globals : s.globals.Ordered
  dialects : ∀ e ∈ s.dialects, e.2.Ordered

structure Settings.Ordered (s : Settings) : Prop where
  scope : s.toScope.Ordered
  projects : ∀ e ∈ s.projects, e.2.Ordered

theorem FamilySections.Ordered.of_get? {s : FamilySections} (h : s.Ordered) {family : Family}
    {sec : Section} (hg : s.get? family = some sec) : sec.Ordered := by
  cases family with
  | markup => exact h.markup sec hg
  | stylesheet => exact h.stylesheet sec hg

theorem Scope.Ordered.of_get? {s : Scope} (h : s.Ordered) {dialect : String} {sec : Section}
    (hg : s.dialects.get? dialect = some sec) : sec.Ordered :=
  h.dialects _ (Dict.mem_of_get? hg)

theorem Section.ordered_empty : ({} : Section).Ordered :=
  ⟨trivial, trivial, trivial, trivial, trivial⟩

theorem FamilySections.ordered_empty : ({} : FamilySections).Ordered where
  markup := nofun
  stylesheet := nofun

theorem Scope.ordered_empty : ({} : Scope).Ordered where
  globals := FamilySections.ordered_empty
  dialects := nofun

theorem Settings.ordered_empty : ({} : Settings).Ordered where
  scope := Scope.ordered_empty
  projects := nofun

namespace Options

theorem ordered_empty : ({} : Options).Ordered :=
  ⟨trivial, trivial, trivial, trivial, trivial⟩

theorem ordered_ofJson {v : Json} (hv : v.Ordered) : (ofJson v).Ordered := by
  have hraw (key : String) : ((v.members.get? key).getD .null).Ordered := by
    cases h : v.members.get? key with
    | none => trivial
    | some w => exact hv.of_get? h
  have haddons :
      (((v.members.get? "addons").or (v.members.get? "options")).getD .null).Ordered := by
    cases h : v.members.get? "addons" with
    | none => exact hraw "options"
    | some w => exact hv.of_get? h
  cases v with
  | str dialect => exact ⟨trivial, trivial, trivial, trivial, trivial⟩
  | _ => exact ⟨hraw "profile", hraw "variables", hraw "snippets", haddons, hraw "format"⟩

end Options

namespace Settings

variable {s : Settings} {c : Context} {o : Options} {secs : List Section}

theorem Ordered.of_mem_sections (hs : s.Ordered) {family : Family} {dialect : String}
    {project : Option String} {sec : Section} (h : sec ∈ s.sections family dialect project) :
    sec.Ordered := by
  have hscope : ((project.bind s.projects.get?).getD {}).Ordered := by
    cases hp : project.bind s.projects.get? with
    | none => exact Scope.ordered_empty
    | some scope =>
      obtain ⟨name, -, hn⟩ := Option.bind_eq_some_iff.mp hp
      exact hs.projects _ (Dict.mem_of_get? hn)
  rw [sections_eq_entries, List.reduceOption_mem_iff, entries_eq] at h
  simp only [List.mem_cons, List.not_mem_nil, or_false] at h
  rcases h with h | h | h | h
  · exact hs.scope.globals.of_get? h.symm
  · exact hs.scope.of_get? h.symm
  · exact hscope.globals.of_get? h.symm
  · exact hscope.of_get? h.symm

theorem ordered_layers {pick : Section → Json} {top : Json}
    (hp : ∀ sec ∈ secs, (pick sec).Ordered) (ht : top.Ordered) :
    ∀ v ∈ layers pick secs top, v.Ordered := by
  intro v hv
  rcases List.mem_append.mp hv with hv | hv
  · obtain ⟨sec, hsec, rfl⟩ := List.mem_map.mp hv
    exact hp sec hsec
  · rwa [List.mem_singleton.mp hv]

theorem ordered_snippetItems {v w : Json} (hv : v.Ordered) (hw : w ∈ snippetItems v) :
    w.Ordered := by
  cases v with
  | null => cases hw
  | arr items => exact Json.ordered_arr_iff.mp hv w hw
  | _ => rwa [List.mem_singleton.mp hw]

theorem Ordered.optionsWith (hs : s.Ordered) (c : Context) (ho : o.Ordered) :
    (s.optionsWith c o).Ordered := by
  have hsec : ∀ sec ∈ s.sectionsFor c o, sec.Ordered := fun _ h => hs.of_mem_sections h
  refine ⟨?_, ?_, ?_, ?_, ?_⟩
  · have hp := ho.profile
    simp only [Settings.optionsWith]
    cases h : o.profile with
    | resolved p => trivial
    | options top =>
      rw [h] at hp
      exact .mergeLayers (ordered_layers (fun sec h => (hsec sec h).profile) hp)
  · exact .mergeLayers (ordered_layers (fun sec h => (hsec sec h).vars) ho.vars)
  · have hp := ho.snippets
    simp only [Settings.optionsWith]
    cases h : o.snippets with
    | registry r => trivial
    | raw top =>
      rw [h] at hp
      refine Json.ordered_arr_iff.mpr fun w hw => ?_
      obtain ⟨v, hv, hw⟩ := List.mem_flatMap.mp hw
      exact ordered_snippetItems
        (ordered_layers (fun sec h => (hsec sec h).snippets) hp v hv) hw
  · exact .mergeLayers (ordered_layers (fun sec h => (hsec sec h).addons) ho.addons)
  · exact .mergeLayers (ordered_layers (fun sec h => (hsec sec h).format) ho.format)

end Settings

end Shorthand
