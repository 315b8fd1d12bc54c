import Shorthand.Expander.Probe

/-! # Forms of abbreviations

A text is what its parser reads, a parsed tree passes the stages of its family, and a resolved tree
is only formatted. Neither family looks at the backend of the other, and a stylesheet looks at
neither inserted text nor variables.
-/

namespace Shorthand.Expander

variable {ε : Type} {x y : Expander ε} {c d : Configuration} {tree : Node}

theorem parse_text (x : Expander ε) (s : String) (c : Configuration) :
    x.parse (.text s) c = (x.parser c.family s).bind fun tree => x.parse (.parsed tree) c := by
  rw [parse]
  cases x.parser c.family s <;> rfl

theorem expand_text (x : Expander ε) (s : String) (c : Configuration) :
    x.expand (.text s) c = (x.parser c.family s).bind fun tree => x.expand (.parsed tree) c := by
  rw [expand, parse_text]
  cases x.parser c.family s <;> rfl

theorem expand_of_parse {a : Abbreviation} (h : x.parse a c = .ok tree) :
    x.expand a c = .ok (x.format c tree) := by
  rw [expand, h]
  rfl

theorem runStages_markup (h : c.family = .markup) (tree : Node) :
    runStages (x.stages c) tree =
      x.markup.resolveVariables c.vars
        (x.markup.resolveSnippets c.snippets (x.markup.transform c.text c.addons tree)) := by
  rw [stages, h]
  rfl

theorem runStages_stylesheet (h : c.family = .stylesheet) (tree : Node) :
    runStages (x.stages c) tree = x.stylesheet.resolveSnippets c.snippets c.addons tree := by
  rw [stages, h]
  rfl

/-- A result is determined by the parser, the stages and the formatter of the family. -/
theorem results_congr (hparser : x.parser c.family = y.parser d.family)
    (hstages : runStages (x.stages c) = runStages (y.stages d))
    (hformat : x.format c = y.format d) (a : Abbreviation) :
    x.parse a c = y.parse a d ∧ x.expand a c = y.expand a d := by
  have hparse : x.parse a c = y.parse a d := by
    cases a with
    | text s => rw [parse, parse, hparser, hstages]
    | parsed tree => rw [parse, parse, hstages]
    | resolved tree => rfl
  refine ⟨hparse, ?_⟩
  rw [expand, expand, hparse, hformat]

theorem results_of_stylesheet (h : c.family = .stylesheet) (markup : MarkupBackend ε)
    (text : Option InsertedText) (vars : Dict String) (a : Abbreviation) :
    let y : Expander ε := { x with markup := markup }
    let d : Configuration := { c with text := text, vars := vars }
    x.parse a c = y.parse a d ∧ x.expand a c = y.expand a d := by
  intro y d
  have hd : d.family = .stylesheet := h
  apply results_congr
  · rw [h]
    rfl
  · funext tree
    rw [runStages_stylesheet h, runStages_stylesheet hd]
  · funext tree
    rw [format, format, h]

theorem results_of_markup (h : c.family = .markup) (stylesheet : StylesheetBackend ε)
    (a : Abbreviation) :
    let y : Expander ε := { x with stylesheet := stylesheet }
    x.parse a c = y.parse a c ∧ x.expand a c = y.expand a c := by
  intro y
  apply results_congr
  · rw [h]
    rfl
  · funext tree
    rw [runStages_markup h, runStages_markup h]
  · funext tree
    rw [format, format, h]

/--
A text fails with the fault of the parser of the family, or gives what the tree read from it gives.
A parsed tree passes each stage of the family once. A tree that results is kept when it comes back
as resolved, and the output is what the formatter of the family makes of it. A stylesheet depends
on no text, no variables and no markup backend, and markup on no stylesheet backend.
-/
theorem forms_pass_same_stages (x : Expander ε) (c : Configuration) :
    (∀ s, match (match c.family with
        | .markup => x.markup.parse s
        | .stylesheet => x.stylesheet.parse s) with
      | .error e => x.parse (.text s) c = .error e ∧ x.expand (.text s) c = .error e
      | .ok tree => x.parse (.text s) c = x.parse (.parsed tree) c ∧
          x.expand (.text s) c = x.expand (.parsed tree) c) ∧
    (∀ tree, x.parse (.parsed tree) c = .ok (match c.family with
      | .markup => x.markup.resolveVariables c.vars
          (x.markup.resolveSnippets c.snippets (x.markup.transform c.text c.addons tree))
      | .stylesheet => x.stylesheet.resolveSnippets c.snippets c.addons tree)) ∧
    (∀ a tree, x.parse a c = .ok tree →
      x.parse (.resolved tree) c = .ok tree ∧ x.expand a c = x.expand (.resolved tree) c ∧
        x.expand (.resolved tree) c = .ok (match c.family with
          | .markup => x.markup.format c.profile c.dialect c.format tree
          | .stylesheet => x.stylesheet.format c.profile c.dialect c.format tree)) ∧
    (c.family = .stylesheet → ∀ markup text vars a,
      let y : Expander ε := { x with markup := markup }
      let d : Configuration := { c with text := text, vars := vars }
      x.parse a c = y.parse a d ∧ x.expand a c = y.expand a d) ∧
    (c.family = .markup → ∀ stylesheet a,
      let y : Expander ε := { x with stylesheet := stylesheet }
      x.parse a c = y.parse a c ∧ x.expand a c = y.expand a c) := by
  refine ⟨?_, ?_, ?_, results_of_stylesheet, results_of_markup⟩
  · intro s
    have hparser : x.parser c.family s = (match c.family with
        | .markup => x.markup.parse s
        | .stylesheet => x.stylesheet.parse s) := by
      cases c.family <;> rfl
    rw [← hparser, parse_text, expand_text]
    cases x.parser c.family s with
    | error e => exact ⟨rfl, rfl⟩
    | ok tree => exact ⟨rfl, rfl⟩
  · intro tree
    rw [parse]
    cases h : c.family with
    | markup => rw [runStages_markup h]
    | stylesheet => rw [runStages_stylesheet h]
  · intro a tree h
    have hresolved : x.expand (.resolved tree) c = .ok (x.format c tree) := expand_of_parse rfl
    exact ⟨rfl, (expand_of_parse h).trans hresolved.symm, hresolved⟩

def idleOptions (dialect : String) : Options where
  dialect := some dialect
  text := some (.single "inserted")
  vars := .obj [("lang", .str "ru")]
  snippets := .registry {}

def markedNode : Node where
  name := some "ul"
  attributes := [{ name := "transformed" }, { name := "vars", value := some "3" }]

theorem forms_pass_same_stages_probe :
    let markup := (idleOptions "html").resolve
    let stylesheet := (idleOptions "scss").resolve
    let bare : MarkupBackend String := { Probe.markup with transform := fun _ _ tree => tree }
    Probe.expander.expand (.text "?ul") markup = .error "bad abbreviation: ul" ∧
      Probe.expander.parse (.text "ul") markup = .ok markedNode ∧
      Probe.expander.expand (.text "ul") markup =
        .ok (Probe.format markup.profile markup.dialect markup.format markedNode) ∧
      Probe.expander.parse (.text "m10") stylesheet =
        Expander.parse ⟨bare, Probe.stylesheet⟩ (.text "m10")
          { stylesheet with text := none, vars := [] } := by
  intro markup stylesheet bare
  have hparse : Probe.expander.parse (.text "ul") (idleOptions "html").resolve =
      .ok markedNode := by rfl
  obtain ⟨htext, -, hresult, -, -⟩ := forms_pass_same_stages Probe.expander markup
  obtain ⟨-, -, -, hother, -⟩ := forms_pass_same_stages Probe.expander stylesheet
  obtain ⟨-, hexpand, hformat⟩ := hresult (.text "ul") markedNode hparse
  exact ⟨(htext "?ul").2, hparse, hexpand.trans hformat, (hother rfl bare none [] (.text "m10")).1⟩

end Shorthand.Expander
