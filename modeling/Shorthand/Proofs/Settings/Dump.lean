import Shorthand.Proofs.Settings.Load

/-! # Settings that are dumped

Settings are read back from the value they are written as. So settings read from a text, however
that spells them, are read again from any text of their dump.
-/

namespace Shorthand

open Json Json.Decode

theorem Section.readsBack : ReadsBack Section.decode Section.toJson :=
  fun _ => rfl

theorem FamilySections.readsBack : ReadsBack FamilySections.decode FamilySections.toJson := by
  intro s
  have hsection := readsBack_option Section.readsBack fun _ => nofun
  rw [decode, toJson, record_obj_cons rfl (hsection s.markup),
    record_obj_cons rfl (hsection s.stylesheet)]
  rfl

theorem Scope.decode_dialectsJson (s : Scope) :
    Decode.dict Section.decode s.dialectsJson = .ok s.dialects :=
  readsBack_dict Section.readsBack s.dialects

theorem Scope.readsBack : ReadsBack Scope.decode Scope.toJson := by
  intro s
  rw [decode, toJson, record_obj_cons rfl (FamilySections.readsBack s.globals),
    record_obj_cons rfl s.decode_dialectsJson]
  rfl

theorem Settings.readsBack : ReadsBack Settings.decode Settings.toJson := by
  intro s
  rw [decode, toJson, record_obj_cons rfl (FamilySections.readsBack s.globals),
    record_obj_cons rfl (readsBack_dict Scope.readsBack s.projects),
    record_obj_cons rfl s.toScope.decode_dialectsJson]
  rfl

theorem Section.ordered_toJson {s : Section} (h : s.Ordered) : s.toJson.Ordered := by
  refine ⟨?_, h.addons, h.format, h.profile, h.snippets, h.vars, trivial⟩
  exact Dict.sorted_of_keys ["addons", "format", "profile", "snippets", "variables"] rfl (by decide)

theorem FamilySections.ordered_toJson {s : FamilySections} (h : s.Ordered) :
    s.toJson.Ordered := by
  refine ⟨Dict.sorted_of_keys ["markup", "stylesheet"] rfl (by decide), ?_, ?_, trivial⟩
  · exact ordered_ofOption fun sec hs => Section.ordered_toJson (h.markup sec hs)
  · exact ordered_ofOption fun sec hs => Section.ordered_toJson (h.stylesheet sec hs)

theorem Scope.ordered_dialectsJson {s : Scope} (h : s.Ordered) (hd : Dict.Sorted s.dialects) :
    s.dialectsJson.Ordered :=
  ordered_mapValues hd fun e he => Section.ordered_toJson (h.dialects e he)

theorem Scope.ordered_toJson {s : Scope} (h : s.Ordered) (hd : Dict.Sorted s.dialects) :
    s.toJson.Ordered :=
  ⟨Dict.sorted_of_keys ["globals", "syntax"] rfl (by decide),
    FamilySections.ordered_toJson h.globals, ordered_dialectsJson h hd, trivial⟩

structure Settings.Sorted (s : Settings) : Prop where
  dialects : Dict.Sorted s.dialects
  projects : Dict.Sorted s.projects
  inProjects : ∀ e ∈ s.projects, Dict.Sorted e.2.dialects

theorem Scope.sorted_of_decode {v : Json} {s : Scope} (hv : v.Ordered) (h : decode v = .ok s) :
    Dict.Sorted s.dialects := by
  refine Decode.record_induct (P := fun s => Dict.Sorted s.dialects) Dict.sorted_nil
    (fun field hf w hw a b ha h => ?_) h
  simp only [List.mem_cons, List.not_mem_nil, or_false] at hf
  rcases hf with rfl | rfl
  · obtain ⟨x, -, rfl⟩ := Decode.field_ok h
    exact ha
  · obtain ⟨x, hx, rfl⟩ := Decode.field_ok h
    exact sorted_dict (hv.of_mem_children hw) hx

namespace Settings

variable {v : Json} {s : Settings}

theorem sorted_empty : ({} : Settings).Sorted where
  dialects := Dict.sorted_nil
  projects := Dict.sorted_nil
  inProjects := nofun

theorem sorted_of_decode (hv : v.Ordered) (h : decode v = .ok s) : s.Sorted := by
  refine Decode.record_induct sorted_empty (fun field hf w hw a b ha h => ?_) h
  have hw : w.Ordered := hv.of_mem_children hw
  simp only [List.mem_cons, List.not_mem_nil, or_false] at hf
  rcases hf with rfl | rfl | rfl
  · obtain ⟨x, -, rfl⟩ := Decode.field_ok h
    exact ⟨ha.dialects, ha.projects, ha.inProjects⟩
  · obtain ⟨x, hx, rfl⟩ := Decode.field_ok h
    exact ⟨sorted_dict hw hx, ha.projects, ha.inProjects⟩
  · obtain ⟨x, hx, rfl⟩ := Decode.field_ok h
    exact ⟨ha.dialects, sorted_dict hw hx,
      ordered_of_dict hw (fun _ _ => Scope.sorted_of_decode) hx⟩

theorem ordered_toJson (h : s.Ordered) (hs : s.Sorted) : s.toJson.Ordered := by
  refine ⟨?_, FamilySections.ordered_toJson h.scope.globals, ?_,
    Scope.ordered_dialectsJson h.scope hs.dialects, trivial⟩
  · exact Dict.sorted_of_keys ["globals", "project", "syntax"] rfl (by decide)
  · refine ordered_mapValues hs.projects fun e he => ?_
    exact Scope.ordered_toJson (h.projects e he) (hs.inProjects e he)

theorem ofValue_toJson (s : Settings) : ofValue s.toJson = .ok s := by
  have hobj : s.toJson.isObj = true := rfl
  rw [ofValue, if_pos hobj, readsBack s]
  rfl

theorem exists_decode_of_ofJsonText {text : String} (h : ofJsonText text = .ok s) :
    ∃ v, v.Ordered ∧ decode v = .ok s := by
  unfold ofJsonText at h
  split at h
  · rename_i v hv
    exact ⟨v, ordered_of_read? hv, decode_of_ofValue h⟩
  · cases h

/--
Settings are decoded from the value they are written as. Those that a text is accepted as are
written as an ordered value, and any text that spells this value is accepted as the same settings.
-/
theorem reload_dump :
    (∀ s : Settings, decode s.toJson = .ok s ∧ ofValue s.toJson = .ok s) ∧
    ∀ text s, ofJsonText text = .ok s →
      s.toJson.Ordered ∧ ∀ dump, Json.read? dump = some s.toJson → ofJsonText dump = .ok s := by
  constructor
  · exact fun s => ⟨readsBack s, ofValue_toJson s⟩
  · intro text s h
    obtain ⟨v, hv, hd⟩ := exists_decode_of_ofJsonText h
    refine ⟨ordered_toJson (ordered_of_decode hv hd) (sorted_of_decode hv hd), ?_⟩
    intro dump hread
    rw [ofJsonText, hread]
    exact ofValue_toJson s

def looseText : String :=
  "\x7b\"globals\":[null,\x7b\"options\":true,\"x\":0\x7d],\"syntax\":\x7b\"css\":[\"f\"]\x7d\x7d"

def looseSettings : Settings where
  globals := { stylesheet := some { addons := .bool true } }
  dialects := [("css", { format := .str "f" })]

set_option maxRecDepth 4000 in
theorem reload_dump_looseText :
    ofJsonText looseText = .ok looseSettings ∧
      Json.read? looseSettings.toJson.text = some looseSettings.toJson ∧
      ofJsonText looseSettings.toJson.text = .ok looseSettings := by
  have htext : ofJsonText looseText = .ok looseSettings := by rfl
  have hread : Json.read? looseSettings.toJson.text = some looseSettings.toJson := by
    simp only [Json.read?, looseSettings, toJson, FamilySections.toJson, Json.ofOption,
      Section.toJson, Scope.dialectsJson, Dict.mapValues, Json.text, Json.membersText,
      List.map_cons, List.map_nil, String.toList_append]
    rfl
  exact ⟨htext, hread, (reload_dump.2 looseText looseSettings htext).2 _ hread⟩

end Settings

end Shorthand
