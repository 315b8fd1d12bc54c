import Mathlib.Tactic.SplitIfs
import Shorthand.Proofs.Json.Ordered
import Shorthand.Yaml.Document

/-! # Values of documents

Every value that a document gives is ordered, whatever its tags and aliases are. The depth at which
a document is cut off bounds the induction.
-/

namespace Shorthand.Yaml

open Json

namespace Scalar

variable {s : String} {v : Json}

theorem ordered_floatValue? (h : floatValue? s = some v) : v.Ordered := by
  unfold floatValue? at h
  split_ifs at h
  · cases h; trivial
  · obtain ⟨x, -, rfl⟩ := Option.map_eq_some_iff.mp h
    trivial

theorem ordered_plain? (h : plain? s = some v) : v.Ordered := by
  unfold plain? at h
  split at h
  · cases h; trivial
  · split at h
    · cases h; trivial
    · split at h
      · split at h <;> cases h; trivial
      · split at h
        · cases h; trivial
        · cases hf : floatValue? s with
          | none => rw [hf] at h; cases h; trivial
          | some w => rw [hf] at h; cases h; exact ordered_floatValue? hf

theorem ordered_untagged? {plain : Bool} (h : untagged? plain s = some v) : v.Ordered := by
  unfold untagged? at h
  split_ifs at h
  · exact ordered_plain? h
  · cases h; trivial

theorem ordered_value? {tag : Option TagText} {plain : Bool} (h : value? tag plain s = some v) :
    v.Ordered := by
  unfold value? at h
  split at h
  · exact ordered_untagged? h
  · split_ifs at h
    · obtain ⟨b, -, rfl⟩ := Option.map_eq_some_iff.mp h
      trivial
    · obtain ⟨n, -, rfl⟩ := Option.map_eq_some_iff.mp h
      trivial
    · exact ordered_floatValue? h
    · cases h; trivial
    · exact ordered_untagged? h

end Scalar

namespace Document

variable {α β : Type} {P : α → Prop} {Q : β → Prop}

/-- What is read has a property, however many aliases have been followed before. -/
def Gives (m : Reading α) (P : α → Prop) : Prop :=
  ∀ jumps a jumps', m jumps = some (a, jumps') → P a

theorem gives_pure {a : α} (ha : P a) : Gives (pure a) P := by
  rintro jumps b jumps' ⟨⟩
  exact ha

theorem gives_failure : Gives failure P := by
  rintro jumps b jumps' ⟨⟩

theorem gives_lift {o : Option α} (h : ∀ a, o = some a → P a) :
    Gives (liftM o : Reading α) P := by
  intro jumps a jumps' ha
  obtain ⟨b, hb, ha⟩ := Option.bind_eq_some_iff.mp ha
  cases ha
  exact h a hb

theorem gives_bind {m : Reading α} {f : α → Reading β} (hm : Gives m P)
    (hf : ∀ a, P a → Gives (f a) Q) : Gives (m >>= f) Q := by
  intro jumps b jumps' h
  obtain ⟨⟨a, mid⟩, ha, hb⟩ := Option.bind_eq_some_iff.mp h
  exact hf a (hm jumps a mid ha) mid b jumps' hb

theorem gives_true (m : Reading α) : Gives m fun _ => True :=
  fun _ _ _ _ => trivial

theorem gives_mapM {γ : Type} {f : γ → Reading α} (hf : ∀ x, Gives (f x) P) (xs : List γ) :
    Gives (xs.mapM f) fun as => ∀ a ∈ as, P a := by
  induction xs with
  | nil => exact gives_pure (List.forall_mem_nil _)
  | cons x xs ih =>
    rw [List.mapM_cons]
    refine gives_bind (hf x) fun a ha => gives_bind ih fun as has => ?_
    exact gives_pure (List.forall_mem_cons.mpr ⟨ha, has⟩)

theorem forall_of_mapM {γ : Type} {f : γ → Option α} {xs : List γ} {as : List α}
    (hf : ∀ x ∈ xs, ∀ a, f x = some a → P a) (h : xs.mapM f = some as) : ∀ a ∈ as, P a := by
  induction xs generalizing as with
  | nil => cases h; exact List.forall_mem_nil _
  | cons x xs ih =>
    obtain ⟨hx, hxs⟩ := List.forall_mem_cons.mp hf
    rw [List.mapM_cons] at h
    obtain ⟨a, ha, h⟩ := Option.bind_eq_some_iff.mp h
    obtain ⟨rest, hr, h⟩ := Option.bind_eq_some_iff.mp h
    cases h
    exact List.forall_mem_cons.mpr ⟨hx a ha, ih hxs hr⟩

theorem ordered_object? {entries : List (Json × Json)} {v : Json}
    (he : ∀ e ∈ entries, e.2.Ordered) (h : object? entries = some v) : v.Ordered := by
  unfold object? at h
  split_ifs at h
  obtain ⟨members, hm, h⟩ := Option.bind_eq_some_iff.mp h
  cases h
  refine ordered_object (forall_of_mapM (fun e hmem m hk => ?_) hm)
  obtain ⟨key, -, rfl⟩ := Option.map_eq_some_iff.mp hk
  exact he e hmem

def OrderedBelow (below : Below) : Prop :=
  ∀ f ∈ below, ∀ n, Gives (f n) Json.Ordered

theorem ordered_content {below : Below} (hb : OrderedBelow below) (tag : Option TagText)
    (n : Node Nat) : Gives (content below tag n) Json.Ordered := by
  cases n with
  | «alias» k => exact gives_failure
  | scalar p plain text => exact gives_lift fun v hv => Scalar.ordered_value? hv
  | sequence p items =>
    refine gives_bind (gives_lift hb) fun f hf => ?_
    refine gives_bind (gives_mapM hf items) fun values hv => ?_
    exact gives_pure (ordered_arr_iff.mpr hv)
  | mapping p entries =>
    refine gives_bind (gives_lift hb) fun f hf => ?_
    have hentry (e : Node Nat × Node Nat) :
        Gives (do return (← f e.1, ← f e.2)) fun e : Json × Json => e.2.Ordered := by
      refine gives_bind (hf e.1) fun k hk => gives_bind (hf e.2) fun v hv => ?_
      exact gives_pure hv
    refine gives_bind (gives_mapM hentry entries) fun es he => ?_
    exact gives_lift fun v hv => ordered_object? he hv

theorem ordered_nodeValue (d : Document) {below : Below} (hb : OrderedBelow below)
    (n : Node Nat) : Gives (d.nodeValue below n) Json.Ordered := by
  unfold nodeValue
  dsimp only
  split <;> refine gives_bind (gives_true _) fun m _ => ?_
  all_goals
    split
    · refine gives_bind (ordered_content hb none m) fun v hv => gives_pure (ordered_object ?_)
      exact List.forall_mem_singleton.mpr hv
    · exact ordered_content hb m.properties.tag m

/-- However deep the nodes below may still be nested, the value of a node is ordered. -/
theorem ordered_value (d : Document) (depth : Nat) (n : Node Nat) :
    Gives (d.value depth n) Json.Ordered := by
  induction depth generalizing n with
  | zero =>
    refine d.ordered_nodeValue (fun f hf => ?_) n
    cases hf
  | succ depth ih =>
    refine d.ordered_nodeValue (fun f hf => ?_) n
    cases hf
    exact ih

end Document

theorem ordered_of_readJson? {s : String} {v : Json} (h : readJson? s = some v) : v.Ordered := by
  obtain ⟨tokens, -, h⟩ := Option.bind_eq_some_iff.mp h
  obtain ⟨root, -, h⟩ := Option.bind_eq_some_iff.mp h
  obtain ⟨d, -, h⟩ := Option.bind_eq_some_iff.mp h
  obtain ⟨⟨w, jumps⟩, hw, h⟩ := Option.map_eq_some_iff.mp h
  exact h ▸ d.ordered_value Document.maxDepth d.root 0 w jumps hw

end Shorthand.Yaml
