import Shorthand.Proofs.Json.Decode
import Shorthand.Proofs.Json.Reader
import Shorthand.Proofs.Settings.Ordered
import Shorthand.Proofs.Yaml.Document
import Shorthand.Settings.Load

/-! # Settings that are loaded

Settings decoded from an ordered value are ordered, so those that are loaded are, be they written
as JSON or as YAML.
-/

namespace Shorthand

open Json

variable {v : Json}

theorem Section.ordered_of_mem_fields {field : String × (Section → Decoder Section)}
    (hf : field ∈ fields) {a b : Section} {w : Json} (ha : a.Ordered) (hw : w.Ordered)
    (h : field.2 a w = .ok b) : b.Ordered := by
  simp only [fields, List.mem_cons, List.not_mem_nil, or_false] at hf
  rcases hf with rfl | rfl | rfl | rfl | rfl <;> cases h
  · exact { ha with format := hw }
  · exact { ha with profile := hw }
  · exact { ha with vars := hw }
  · exact { ha with snippets := hw }
  · exact { ha with addons := hw }

theorem Section.ordered_of_decode {s : Section} (hv : v.Ordered) (h : decode v = .ok s) :
    s.Ordered := by
  have hrecord {w : Json} (hw : ∀ x ∈ w.children, x.Ordered)
      (h : Decode.record "ConfigSection" fields {} w = .ok s) : s.Ordered :=
    Decode.record_induct ordered_empty
      (fun field hf x hx a b ha h => ordered_of_mem_fields hf ha (hw x hx) h) h
  unfold decode at h
  split at h
  · split at h
    · cases h
    · refine hrecord (fun x hx => ?_) h
      rw [children, renameOptions, List.map_map] at hx
      exact hv.of_mem_children hx
  · exact hrecord (fun x hx => hv.of_mem_children hx) h

theorem FamilySections.ordered_of_decode {s : FamilySections} (hv : v.Ordered)
    (h : decode v = .ok s) : s.Ordered := by
  refine Decode.record_induct ordered_empty (fun field hf w hw a b ha h => ?_) h
  have hsec {x : Option Section} (hx : Decode.option Section.decode w = .ok x) :
      ∀ sec ∈ x, sec.Ordered := fun sec hs =>
    Section.ordered_of_decode (hv.of_mem_children hw) (Decode.option_ok hx sec hs)
  simp only [List.mem_cons, List.not_mem_nil, or_false] at hf
  rcases hf with rfl | rfl
  · obtain ⟨x, hx, rfl⟩ := Decode.field_ok h
    exact { ha with markup := hsec hx }
  · obtain ⟨x, hx, rfl⟩ := Decode.field_ok h
    exact { ha with stylesheet := hsec hx }

theorem ordered_of_dict {α : Type} {f : Decoder α} {P : α → Prop} {d : Dict α} (hv : v.Ordered)
    (hf : ∀ w a, w.Ordered → f w = .ok a → P a) (h : Decode.dict f v = .ok d) :
    ∀ e ∈ d, P e.2 := by
  intro e he
  obtain ⟨w, hw, h⟩ := Decode.dict_ok h e he
  exact hf w e.2 (hv.of_mem_children hw) h

theorem Scope.ordered_of_decode {s : Scope} (hv : v.Ordered) (h : decode v = .ok s) :
    s.Ordered := by
  refine Decode.record_induct ordered_empty (fun field hf w hw a b ha h => ?_) h
  have hw : w.Ordered := hv.of_mem_children hw
  simp only [List.mem_cons, List.not_mem_nil, or_false] at hf
  rcases hf with rfl | rfl
  · obtain ⟨x, hx, rfl⟩ := Decode.field_ok h
    exact { ha with globals := FamilySections.ordered_of_decode hw hx }
  · obtain ⟨x, hx, rfl⟩ := Decode.field_ok h
    exact { ha with
      dialects := ordered_of_dict hw (fun _ _ => Section.ordered_of_decode) hx }

namespace Settings

variable {s : Settings}

theorem ordered_of_decode (hv : v.Ordered) (h : decode v = .ok s) : s.Ordered := by
  refine Decode.record_induct ordered_empty (fun field hf w hw a b ha h => ?_) h
  have hw : w.Ordered := hv.of_mem_children hw
  simp only [List.mem_cons, List.not_mem_nil, or_false] at hf
  rcases hf with rfl | rfl | rfl
  · obtain ⟨x, hx, rfl⟩ := Decode.field_ok h
    exact ⟨{ ha.scope with globals := FamilySections.ordered_of_decode hw hx }, ha.projects⟩
  · obtain ⟨x, hx, rfl⟩ := Decode.field_ok h
    exact ⟨{ ha.scope with
      dialects := ordered_of_dict hw (fun _ _ => Section.ordered_of_decode) hx }, ha.projects⟩
  · obtain ⟨x, hx, rfl⟩ := Decode.field_ok h
    exact { ha with projects := ordered_of_dict hw (fun _ _ => Scope.ordered_of_decode) hx }

theorem decode_of_ofValue (h : ofValue v = .ok s) : decode v = .ok s := by
  unfold ofValue at h
  split at h
  · cases hd : decode v with
    | error e => rw [hd] at h; cases h
    | ok t => rw [hd] at h; cases h; rfl
  · cases h

theorem ordered_of_ofValue (hv : v.Ordered) (h : ofValue v = .ok s) : s.Ordered :=
  ordered_of_decode hv (decode_of_ofValue h)

theorem ordered_of_ofJsonText {text : String} (h : ofJsonText text = .ok s) : s.Ordered := by
  unfold ofJsonText at h
  split at h
  · rename_i v hv
    exact ordered_of_ofValue (ordered_of_read? hv) h
  · cases h

theorem ordered_of_ofYamlText {text : String} (h : ofYamlText text = .ok s) : s.Ordered := by
  unfold ofYamlText at h
  split at h
  · cases h; exact ordered_empty
  · split at h
    · cases h; exact ordered_empty
    · rename_i v _ hv
      exact ordered_of_ofValue (Yaml.ordered_of_readJson? hv) h
    · cases h

/-- Whatever file settings are loaded from, they are ordered. -/
theorem ordered_of_load {path : String} {content : Option ByteArray}
    (h : load path content = .ok s) : s.Ordered := by
  unfold load at h
  split at h
  · cases h
  · split at h
    · cases h
    · split at h
      · exact ordered_of_ofYamlText h
      · exact ordered_of_ofJsonText h

end Settings

end Shorthand
