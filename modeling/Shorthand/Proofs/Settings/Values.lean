import Shorthand.Proofs.Json.LastValue
import Shorthand.Proofs.Profile.Trial
import Shorthand.Proofs.Settings.Layering

/-! # Profiles and variables of layered options

A profile field has the last value that the bags give it, or its default, and so has a variable,
written as text. A variable that some bag gives as a scalar is kept unless a more specific bag gives
it a list or an object.
-/

namespace Shorthand

open Json

theorem Profile.withValues_congr {f g : String → Option Json} (h : ∀ k, Alike (f k) (g k))
    (p : Profile) : p.withValues f = p.withValues g := by
  have hstr (k) := (h k).bind_eq (f := str?) fun _ => rfl
  have hbool (k) := (h k).bind_eq (f := bool?) fun _ => rfl
  have htexts (k) := (h k).bind_eq (f := texts?) fun _ => rfl
  have hword (k) := (h k).bind_eq (f := word?) fun _ => rfl
  simp only [withValues, hstr, hbool, htexts, hword]

def Json.isScalar : Json → Bool
  | .str _ | .num _ | .bool _ => true
  | _ => false

theorem isSome_variableText? (v : Json) : (variableText? v).isSome = v.isScalar := by
  cases v <;> rfl

theorem get?_foldl_variables {members : Dict Json} (hm : Dict.Sorted members) (d : Dict String)
    (name : String) :
    Dict.get? (members.foldl (fun vars e => match variableText? e.2 with
      | some s => vars.insert e.1 s
      | none => vars) d) name =
      ((Dict.get? members name).bind variableText?).or (d.get? name) := by
  induction members generalizing d with
  | nil => rfl
  | cons e members ih =>
    obtain ⟨key, v⟩ := e
    rw [List.foldl_cons, ih hm.tail, Dict.get?_cons]
    by_cases hk : name = key
    · subst hk
      rw [hm.get?_head, if_pos rfl]
      cases hv : variableText? v with
      | none => simp [hv]
      | some s => simp [hv, Dict.get?_insert]
    · rw [if_neg hk]
      cases variableText? v with
      | none => rfl
      | some s => simp [Dict.get?_insert, hk]

theorem get?_resolveVariables {v : Json} (hv : v.Ordered) (name : String) :
    (resolveVariables v).get? name =
      ((v.get? name).bind variableText?).or (Builtin.vars.get? name) :=
  get?_foldl_variables hv.sorted_members _ name

namespace Settings

variable {s : Settings} {c : Context} {o : Options} {top : Json}

theorem ordered_bags (hs : s.Ordered) {pick : Section → Json}
    (hp : ∀ sec : Section, sec.Ordered → (pick sec).Ordered) (ht : top.Ordered) :
    ∀ v ∈ layers pick (s.sectionsFor c o) top, v.Ordered :=
  ordered_layers (fun _ h => hp _ (hs.of_mem_sections h)) ht

/--
Each profile field has the last value that the bags which apply give it, where that has the type
of the field, and its default otherwise. A profile that the caller has built stays as it is.
-/
theorem profile_resolve_optionsWith (hs : s.Ordered) (ht : top.Ordered) :
    (let cfg := (s.optionsWith c { o with profile := .options top }).resolve
      let bags := s.bags cfg.family cfg.dialect c.project (·.profile) top
      cfg.profile = ({} : Profile).withValues (lastValue? bags)) ∧
    ∀ p, (s.optionsWith c { o with profile := .resolved p }).resolve.profile = p := by
  refine ⟨?_, fun p => rfl⟩
  intro cfg bags
  have hb : bags = layers (·.profile) (s.sectionsFor c o) top :=
    s.bags_resolve_optionsWith c { o with profile := .options top } (·.profile) top
  have hl : ∀ v ∈ bags, v.Ordered := hb ▸ ordered_bags hs (fun _ h => h.profile) ht
  have hp : cfg.profile = Profile.ofOptions (mergeLayers bags) := by rw [hb]; rfl
  rw [hp, Profile.ofOptions_eq_withValues (.mergeLayers hl)]
  exact Profile.withValues_congr (alike_lastValue? hl) _

def clashingProfiles : Settings where
  globals := { markup := some {
    profile := .obj
      [("formatSkip", .arr [.str "pre", .str "code"]), ("indent", .str "  "),
        ("inlineBreak", .obj [("count", .ofInt 2)]), ("tagCase", .ofInt 1)] } }
  dialects := [("angular", {
    profile := .obj
      [("formatSkip", .arr [.str "pre", .null]), ("indent", .null), ("inlineBreak", .ofInt 7),
        ("quotes", .bool true)] })]

theorem profile_resolve_clashingProfiles :
    let c : Context := { dialect := some "angular" }
    let top : Json := .obj [("attributeCase", .null), ("tagCase", .str "upper")]
    clashingProfiles.Ordered ∧ top.Ordered ∧
      (clashingProfiles.optionsWith c { profile := .options top }).resolve.profile =
        { indent := "  ", inlineBreak := 7, tagCase := "upper" } := by
  intro c top
  have hs : clashingProfiles.Ordered := ⟨⟨⟨by decide, by decide⟩, by decide⟩, nofun⟩
  have ht : top.Ordered := by decide
  refine ⟨hs, ht, ?_⟩
  exact (profile_resolve_optionsWith (c := c) (o := {}) hs ht).1.trans (by decide)

theorem get?_vars_resolve_optionsWith (hs : s.Ordered) (hv : o.vars.Ordered) (name : String) :
    (s.optionsWith c o).resolve.vars.get? name =
      ((lastValue? (layers (·.vars) (s.sectionsFor c o) o.vars) name).bind variableText?).or
        (Builtin.vars.get? name) := by
  have hl := ordered_bags (c := c) (o := o) hs (fun _ h => h.vars) hv
  change (resolveVariables (mergeLayers _)).get? name = _
  rw [get?_resolveVariables (.mergeLayers hl), bind_get?_mergeLayers hl fun _ => rfl]

theorem isSome_get?_builtin : ∀ name ∈ ["lang", "locale", "charset"],
    (Builtin.vars.get? name).isSome := by
  decide

/--
A variable has the last value that the bags which apply give it: a text as it is, a number or a
boolean as JSON writes it. Without a value, or with a list or an object for it, the built-in
variable remains. Language, locale and character set are always there.
-/
theorem vars_resolve_optionsWith (hs : s.Ordered) (hv : o.vars.Ordered) :
    let cfg := (s.optionsWith c o).resolve
    let bags := s.bags cfg.family cfg.dialect c.project (·.vars) o.vars
    (∀ name, match lastValue? bags name with
      | some (.str t) => cfg.vars.get? name = some t
      | some (.num n) => cfg.vars.get? name = some (Json.num n).text
      | some (.bool b) => cfg.vars.get? name = some (Json.bool b).text
      | _ => cfg.vars.get? name = Builtin.vars.get? name) ∧
    ∀ name ∈ ["lang", "locale", "charset"], cfg.vars.contains name := by
  intro cfg bags
  have hb : bags = layers (·.vars) (s.sectionsFor c o) o.vars :=
    s.bags_resolve_optionsWith c o (·.vars) o.vars
  have hget (name : String) : cfg.vars.get? name =
      ((lastValue? bags name).bind variableText?).or (Builtin.vars.get? name) := by
    rw [hb]
    exact get?_vars_resolve_optionsWith hs hv name
  constructor
  · intro name
    rw [hget]
    cases lastValue? bags name with
    | none => rfl
    | some w =>
      cases w with
      | str t => rfl
      | num n => rfl
      | bool b => cases b <;> rfl
      | _ => rfl
  · intro name hname
    rw [Dict.contains, hget, Option.isSome_or, isSome_get?_builtin name hname, Bool.or_true]

/--
Variables of clashing types, among them an object below a boolean and a null above a text.
-/
def clashingVars : Settings where
  globals := { markup := some {
    vars := .obj
      [("debug", .obj [("level", .ofInt 1)]), ("lang", .str "ru"), ("width", .ofInt 80)] } }
  dialects := [("angular", {
    vars := .obj [("debug", .bool true), ("lang", .null), ("width", .str "wide")] })]

theorem vars_resolve_clashingVars :
    let c : Context := { dialect := some "angular" }
    let o : Options := { vars := .obj [("width", .ofInt (-1))] }
    let vars := (clashingVars.optionsWith c o).resolve.vars
    clashingVars.Ordered ∧ o.vars.Ordered ∧
      vars.get? "debug" = some "true" ∧ vars.get? "lang" = some "ru" ∧
      vars.get? "width" = some "-1" ∧ vars.get? "charset" = some "UTF-8" ∧
      vars.contains "locale" := by
  intro c o vars
  have hs : clashingVars.Ordered := ⟨⟨⟨by decide, by decide⟩, by decide⟩, nofun⟩
  have ho : o.vars.Ordered := by decide
  have hfamily : (clashingVars.optionsWith c o).resolve.family = .markup := rfl
  have hdialect : (clashingVars.optionsWith c o).resolve.dialect = "angular" := rfl
  obtain ⟨hget, hbuiltin⟩ := vars_resolve_optionsWith (c := c) (o := o) hs ho
  simp only [hfamily, hdialect] at hget
  exact ⟨hs, ho, hget "debug", hget "lang", hget "width", hget "charset",
    hbuiltin "locale" (by decide)⟩

/--
Some bag gives the name a text, a number or a boolean, and no later one gives it a list or an
object.
-/
def GivenScalar (bags : List Json) (name : String) : Prop :=
  ∃ before bag after, bags = before ++ bag :: after ∧ (∃ w ∈ bag.get? name, w.isScalar) ∧
    ∀ later ∈ after, ∀ w ∈ later.get? name, w.isNull ∨ w.isScalar

theorem isNull_of_isScalar {w : Json} (h : w.isScalar) : w.isNull = false := by
  cases w with
  | null => cases h
  | _ => rfl

theorem givenScalar_iff {bags : List Json} {name : String} :
    GivenScalar bags name ↔ ∃ w, lastValue? bags name = some w ∧ w.isScalar := by
  constructor
  · rintro ⟨before, bag, after, rfl, ⟨w, hw, hs⟩, hafter⟩
    have hb : bag.value? name = some w := value?_eq_some_iff.mpr ⟨hw, isNull_of_isScalar hs⟩
    rw [List.append_cons, lastValue?_append, lastValue?_append_singleton, hb]
    cases hl : lastValue? after name with
    | none => exact ⟨w, rfl, hs⟩
    | some u =>
      obtain ⟨later, hm, hu⟩ := exists_mem_of_lastValue? hl
      obtain ⟨hu, hn⟩ := value?_eq_some_iff.mp hu
      refine ⟨u, rfl, ?_⟩
      rcases hafter later hm u hu with hnull | hscalar
      · rw [hn] at hnull; cases hnull
      · exact hscalar
  · rintro ⟨w, hw, hs⟩
    obtain ⟨before, bag, after, rfl, hb, hafter⟩ := exists_eq_append_of_lastValue? hw
    refine ⟨before, bag, after, rfl, ⟨w, (value?_eq_some_iff.mp hb).1, hs⟩, ?_⟩
    intro later hm u hu
    exact Or.inl (value?_eq_none_iff.mp (hafter later hm) u hu)

/--
A name is a variable exactly when it is built in, or some bag gives it as a scalar and no more
specific bag gives it a list or an object.
-/
theorem contains_vars_iff_givenScalar (hs : s.Ordered) (hv : o.vars.Ordered) (name : String) :
    let cfg := (s.optionsWith c o).resolve
    let bags := s.bags cfg.family cfg.dialect c.project (·.vars) o.vars
    cfg.vars.contains name ↔ GivenScalar bags name ∨ Builtin.vars.contains name := by
  intro cfg bags
  have hb : bags = layers (·.vars) (s.sectionsFor c o) o.vars :=
    s.bags_resolve_optionsWith c o (·.vars) o.vars
  have hscalar : ((lastValue? bags name).bind variableText?).isSome ↔ GivenScalar bags name := by
    rw [givenScalar_iff]
    cases lastValue? bags name with
    | none => simp
    | some w => simp [isSome_variableText?]
  rw [Dict.contains, get?_vars_resolve_optionsWith hs hv, ← hb, Option.isSome_or, Bool.or_eq_true,
    hscalar]
  rfl

def listOverText : Settings where
  globals := { markup := some { vars := .obj [("theme", .str "dark"), ("width", .ofInt 80)] } }
  dialects := [("html", { vars := .obj [("theme", .arr [.str "light"]), ("width", .null)] })]

theorem contains_vars_listOverText :
    listOverText.Ordered ∧ ({} : Options).vars.Ordered ∧
      (listOverText.optionsWith {} {}).resolve.vars.contains "width" := by
  have hs : listOverText.Ordered := ⟨⟨⟨by decide, by decide⟩, by decide⟩, nofun⟩
  refine ⟨hs, trivial, ?_⟩
  refine (contains_vars_iff_givenScalar (c := {}) (o := {}) hs trivial "width").mpr (Or.inl ?_)
  refine ⟨[], .obj [("theme", .str "dark"), ("width", .ofInt 80)],
    [.obj [("theme", .arr [.str "light"]), ("width", .null)], .null], rfl,
    ⟨.ofInt 80, rfl, rfl⟩, ?_⟩
  decide

/-- The text of the less specific section is lost, although the list above it is ignored. -/
theorem variable_lost_under_list :
    listOverText.Ordered ∧
      (∃ bag ∈ listOverText.bags .markup "html" none (·.vars) .null,
        bag.get? "theme" = some (.str "dark")) ∧
      (listOverText.optionsWith {} {}).resolve.family = .markup ∧
      (listOverText.optionsWith {} {}).resolve.dialect = "html" ∧
      (listOverText.optionsWith {} {}).resolve.vars.contains "theme" = false := by
  refine ⟨⟨⟨⟨by decide, by decide⟩, by decide⟩, nofun⟩, ?_, rfl, rfl, by decide⟩
  exact ⟨_, List.mem_cons_self, rfl⟩

end Settings

end Shorthand
