import Shorthand.Proofs.Json.Decode
import Shorthand.Proofs.Profile

/-! # Members tried one by one

The bag that a profile is read from grows by each member with which it can still be read. The rest
of the bag has no part in that, so what is read in the end is the default profile with every
member of the right type taken in.
-/

namespace Shorthand.Profile

open Json

variable {f : Field} {bag : Dict Json} {key : String} {v w : Json}

/-- A field is read from its value alone, never from null, and forgets what it held before. -/
structure Field.Lawful (f : Field) : Prop where
  null : ∀ p q, f.read p .null ≠ .ok q
  fault : ∀ p q v e, f.read p v = .error e → f.read q v = .error e
  overwrite : ∀ p q v w, f.read p v = .ok q → f.read q w = f.read p w

theorem lawful_of {α : Type} {read : Decoder α} {set : Profile → α → Profile}
    (hnull : ∀ a, read .null ≠ .ok a) (hset : ∀ p a b, set (set p a) b = set p b)
    (key : String) (write : Profile → Json) :
    Field.Lawful ⟨key, write, fun p v => (read v).map (set p)⟩ where
  null p q h := by
    cases hr : read .null with
    | error e => simp [hr, Except.map] at h
    | ok a => exact hnull a hr
  fault p q v e h := by
    cases hr : read v with
    | error e' => simpa [hr, Except.map] using h
    | ok a => simp [hr, Except.map] at h
  overwrite p q v w h := by
    cases hr : read v with
    | error e => simp [hr, Except.map] at h
    | ok a =>
      obtain rfl : set p a = q := by simpa [hr, Except.map] using h
      cases hw : read w with
      | error e => simp [hw, Except.map]
      | ok b => simp [hw, Except.map, hset]

theorem lawful_of_mem (hf : f ∈ fields) : f.Lawful := by
  simp only [fields, List.mem_cons, List.not_mem_nil, or_false] at hf
  rcases hf with rfl | rfl | rfl | rfl | rfl | rfl | rfl | rfl | rfl | rfl | rfl | rfl
  all_goals
    apply lawful_of
    case hnull => intro a h; cases h
    case hset => intro p a b; rfl

/-- What comes of reading a member by itself. Unknown keys are never at fault. -/
def check (key : String) (v : Json) : Except ShapeError Unit :=
  match fields.find? (·.key = key) with
  | some f => (f.read {} v).map fun _ => ()
  | none => .ok ()

theorem read_eq_check (hf : fields.find? (·.key = key) = some f) (p : Profile) (v : Json) :
    f.read p v = (check key v).map fun _ => p.accept key v := by
  have law := lawful_of_mem (List.mem_of_find?_eq_some hf)
  have hcheck : check key v = (f.read {} v).map fun _ => () := by rw [check, hf]
  rw [hcheck, accept_of_mem hf]
  cases hp : f.read p v with
  | error e => rw [law.fault p {} v e hp]; rfl
  | ok q =>
    have hv : v.isNull = false := by
      cases v with
      | null => exact absurd hp (law.null p q)
      | _ => rfl
    have htake : f.take p v = q := by
      rw [Field.take, hv, if_neg Bool.false_ne_true, hp]; rfl
    cases hd : f.read {} v with
    | error e => rw [law.fault {} p v e hd] at hp; cases hp
    | ok r => rw [htake]; rfl

theorem accept_of_fault {e : ShapeError} (h : check key v = .error e) (p : Profile) :
    p.accept key v = p := by
  cases hf : fields.find? (·.key = key) with
  | none => exact accept_of_unknown hf p v
  | some f =>
    have hread := read_eq_check hf p v
    rw [h] at hread
    rw [accept_of_mem hf, Field.take, hread]
    cases v.isNull <;> rfl

theorem accept_accept (hc : check key v = .ok ()) (p : Profile) (w : Json) :
    (p.accept key w).accept key v = p.accept key v := by
  cases hw : check key w with
  | error e => rw [accept_of_fault hw]
  | ok _ =>
    cases hf : fields.find? (·.key = key) with
    | none => rw [accept_of_unknown hf p w]
    | some f =>
      have hok {u : Json} (hu : check key u = .ok ()) (p : Profile) :
          f.read p u = .ok (p.accept key u) := by
        rw [read_eq_check hf, hu]; rfl
      have law := lawful_of_mem (List.mem_of_find?_eq_some hf)
      have hsame := law.overwrite p _ w v (hok hw p)
      rw [hok hc, hok hc] at hsame
      exact Except.ok.inj hsame

/-- Members of different keys can be taken in in either order. -/
theorem accept_comm {k l : String} (h : k ≠ l) (p : Profile) (v w : Json) :
    (p.accept k v).accept l w = (p.accept l w).accept k v := by
  have hone : ∀ m, (if m = k then some v else none) = none ∨
      (if m = l then some w else none) = none := by
    intro m
    by_cases hm : m = k
    · exact Or.inr (if_neg (hm ▸ h))
    · exact Or.inl (if_neg hm)
  simp only [accept_eq_withValues]
  rw [withValues_withValues hone, withValues_withValues fun m => (hone m).symm]
  congr 1
  funext m
  rcases hone m with hm | hm <;> rw [hm] <;> simp

theorem acceptAll_accept (h : ∀ e ∈ bag, e.1 ≠ key) (p : Profile) (v : Json) :
    (p.accept key v).acceptAll bag = (p.acceptAll bag).accept key v := by
  induction bag generalizing p with
  | nil => rfl
  | cons e bag ih =>
    have he : e.1 ≠ key := h e List.mem_cons_self
    have hbag : ∀ e ∈ bag, e.1 ≠ key := fun x hx => h x (List.mem_cons_of_mem e hx)
    rw [acceptAll_cons, acceptAll_cons, accept_comm he.symm, ih hbag]

theorem acceptAll_insert (hb : Dict.Sorted bag) (hc : check key v = .ok ()) (p : Profile) :
    p.acceptAll (bag.insert key v) = (p.acceptAll bag).accept key v := by
  induction bag generalizing p with
  | nil => rfl
  | cons e bag ih =>
    obtain ⟨k, w⟩ := e
    have hlt : ∀ x ∈ bag, k < x.1 := (Dict.sorted_cons_iff.mp hb).1
    rw [Dict.insert]
    split
    · rename_i hk
      subst hk
      have hne : ∀ x ∈ bag, x.1 ≠ key := fun x hx => (String.ne_of_lt (hlt x hx)).symm
      rw [acceptAll_cons, acceptAll_cons, ← acceptAll_accept hne, accept_accept hc]
    · split
      · rename_i hk
        have hne : ∀ x ∈ (k, w) :: bag, x.1 ≠ key := by
          intro x hx
          rcases List.mem_cons.mp hx with rfl | hx
          · exact (String.ne_of_lt hk).symm
          · exact (String.ne_of_lt (String.lt_trans hk (hlt x hx))).symm
        rw [acceptAll_cons, acceptAll_accept hne]
      · rw [acceptAll_cons, acceptAll_cons, ih hb.tail]

theorem lookup_fields (key : String) (fs : List Field) :
    (fs.map fun f => (f.key, f.read)).lookup key =
      (fs.find? (·.key = key)).map Field.read := by
  induction fs with
  | nil => rfl
  | cons f fs ih =>
    by_cases hk : f.key = key
    · simp [hk]
    · have hk' : (key == f.key) = false := beq_false_of_ne (Ne.symm hk)
      simp [List.lookup_cons, hk, hk', ih]

theorem foldlM_check (bag : Dict Json) (p : Profile) :
    bag.foldlM (fun p e => (check e.1 e.2).map fun _ => p.accept e.1 e.2) p =
      (bag.forM fun e => check e.1 e.2).map fun _ => p.acceptAll bag := by
  induction bag generalizing p with
  | nil => rfl
  | cons e bag ih =>
    rw [List.foldlM_cons, acceptAll_cons]
    cases hc : check e.1 e.2 with
    | error err =>
      have hrest : ((e :: bag).forM fun e => check e.1 e.2) = .error err := by
        rw [List.forM, hc]; rfl
      rw [hrest]; rfl
    | ok _ =>
      have hrest : ((e :: bag).forM fun e => check e.1 e.2) =
          bag.forM fun e => check e.1 e.2 := by
        rw [List.forM, hc]; rfl
      rw [hrest]; exact ih (p.accept e.1 e.2)

theorem decode_obj (bag : Dict Json) :
    decode (.obj bag) =
      (bag.forM fun e => check e.1 e.2).map fun _ => ({} : Profile).acceptAll bag := by
  rw [decode, Decode.record, ← foldlM_check]
  congr 1
  funext p e
  rw [lookup_fields]
  cases hf : fields.find? (·.key = e.1) with
  | none => rw [check, hf, accept_of_unknown hf]; rfl
  | some f => exact read_eq_check hf p e.2

structure Readable (bag : Dict Json) : Prop where
  sorted : Dict.Sorted bag
  check : ∀ e ∈ bag, Profile.check e.1 e.2 = .ok ()

theorem forM_check_of_ok (h : ∀ e ∈ bag, check e.1 e.2 = .ok ()) :
    (bag.forM fun e => check e.1 e.2) = .ok () := by
  induction bag with
  | nil => rfl
  | cons e bag ih =>
    rw [List.forM, h e List.mem_cons_self]
    exact ih fun x hx => h x (List.mem_cons_of_mem e hx)

theorem forM_check_eq (hm : (key, v) ∈ bag)
    (h : ∀ e ∈ bag, e = (key, v) ∨ check e.1 e.2 = .ok ()) :
    (bag.forM fun e => check e.1 e.2) = check key v := by
  cases hv : check key v with
  | ok _ =>
    refine forM_check_of_ok fun e he => ?_
    rcases h e he with rfl | hc
    · exact hv
    · exact hc
  | error err =>
    induction bag with
    | nil => cases hm
    | cons e bag ih =>
      have hrest : ∀ x ∈ bag, x = (key, v) ∨ check x.1 x.2 = .ok () :=
        fun x hx => h x (List.mem_cons_of_mem e hx)
      rw [List.forM]
      rcases h e List.mem_cons_self with rfl | hc
      · rw [hv]; rfl
      · rcases List.mem_cons.mp hm with rfl | hm
        · rw [hv] at hc; cases hc
        · rw [hc]
          exact ih hm hrest

theorem tryMember_eq (h : Readable bag) (key : String) (v : Json) :
    tryMember bag key v =
      if v.isNull then .ok bag else (check key v).map fun _ => bag.insert key v := by
  have hm : (key, v) ∈ bag.insert key v := by
    apply Dict.mem_of_get?
    rw [Dict.get?_insert, if_pos rfl]
  have hothers : ∀ e ∈ bag.insert key v, e = (key, v) ∨ check e.1 e.2 = .ok () := by
    intro e he
    exact (Dict.mem_insert he).imp_right (h.check e)
  rw [tryMember, decode_obj, forM_check_eq hm hothers]
  cases check key v <;> rfl

theorem accept_null (p : Profile) (key : String) : p.accept key .null = p := by
  cases hf : fields.find? (·.key = key) with
  | none => exact accept_of_unknown hf p .null
  | some f => rw [accept_of_mem hf]; rfl

/-- A step keeps the bag readable and takes the member in. -/
theorem addMember_step (h : Readable bag) (e : String × Json) (p : Profile) :
    Readable (addMember bag e) ∧
      p.acceptAll (addMember bag e) = (p.acceptAll bag).accept e.1 e.2 := by
  obtain ⟨key, v⟩ := e
  rw [addMember, tryMember_eq h]
  by_cases hn : v.isNull = true
  · rw [if_pos hn]
    obtain rfl := isNull_iff.mp hn
    exact ⟨h, (accept_null _ key).symm⟩
  · rw [if_neg hn]
    cases hc : check key v with
    | error err => exact ⟨h, (accept_of_fault hc _).symm⟩
    | ok _ =>
      refine ⟨⟨Dict.sorted_insert key v h.sorted, ?_⟩, acceptAll_insert h.sorted hc p⟩
      intro x hx
      rcases Dict.mem_insert hx with rfl | hx
      · exact hc
      · exact h.check x hx

theorem foldl_addMember (h : Readable bag) (members : Dict Json) (p : Profile) :
    Readable (members.foldl addMember bag) ∧
      p.acceptAll (members.foldl addMember bag) = (p.acceptAll bag).acceptAll members := by
  induction members generalizing bag with
  | nil => exact ⟨h, rfl⟩
  | cons e members ih =>
    obtain ⟨hstep, htake⟩ := addMember_step h e p
    rw [List.foldl_cons, acceptAll_cons, ← htake]
    exact ih hstep

theorem find?_key (hf : f ∈ fields) : fields.find? (·.key = f.key) = some f := by
  simp only [fields, List.mem_cons, List.not_mem_nil, or_false] at hf
  rcases hf with rfl | rfl | rfl | rfl | rfl | rfl | rfl | rfl | rfl | rfl | rfl | rfl <;> rfl

theorem forall_mem_fields {P : Field → Prop} (text : ∀ key get set, P (textField key get set))
    (flag : ∀ key get set, P (flagField key get set))
    (list : ∀ key get set, P (listField key get set))
    (word : ∀ key get set, P (wordField key get set)) : ∀ f ∈ fields, P f := by
  simp [fields, text, flag, list, word]

theorem read_write_of {α : Type} {read : Decoder α} {write : α → Json}
    (h : Decode.ReadsBack read write) (key : String) (get : Profile → α)
    (set : Profile → α → Profile) (p q : Profile) :
    let f : Field := ⟨key, fun p => write (get p), fun p v => (read v).map (set p)⟩
    ∃ r, f.read q (f.write p) = .ok r := by
  refine ⟨set q (get p), ?_⟩
  change (read (write (get p))).map (set q) = _
  rw [h]
  rfl

theorem exists_read_write (p q : Profile) : ∀ f ∈ fields, ∃ r, f.read q (f.write p) = .ok r := by
  apply forall_mem_fields
  case text => exact fun key get set => read_write_of Decode.readsBack_string key get set p q
  case flag => exact fun key get set => read_write_of Decode.readsBack_bool key get set p q
  case list =>
    have h := Decode.readsBack_list Decode.readsBack_string
    exact fun key get set => read_write_of h key get set p q
  case word => exact fun key get set => read_write_of Decode.readsBack_word key get set p q

theorem check_write (hf : f ∈ fields) (p : Profile) : check f.key (f.write p) = .ok () := by
  obtain ⟨r, hr⟩ := exists_read_write p {} f hf
  rw [check, find?_key hf]
  exact map_ok_iff.mpr ⟨r, hr, rfl⟩

theorem readable_members (p : Profile) : Readable p.members where
  sorted := Dict.sorted_of_keys (fields.map (·.key)) (by simp [Dict.keys, members]) (by decide)
  check e he := by
    obtain ⟨f, hf, rfl⟩ := List.mem_map.mp he
    exact check_write hf p

/-- The members that can be read are taken into the default profile. -/
theorem ofMembers_eq_acceptAll (members : Dict Json) :
    ofMembers members = ({} : Profile).acceptAll members := by
  obtain ⟨hr, ht⟩ := foldl_addMember (readable_members {}) members {}
  have hdefault : ({} : Profile).acceptAll ({} : Profile).members = {} := by rfl
  rw [hdefault] at ht
  rw [ofMembers, decode_obj, forM_check_of_ok hr.check, ht]
  rfl

/-- A field has the value under its key if that is of the right type, and else its default. -/
theorem ofOptions_eq_withValues (hv : v.Ordered) :
    ofOptions v = ({} : Profile).withValues v.get? := by
  rw [ofOptions, ofMembers_eq_acceptAll, acceptAll_eq_withValues hv.sorted_members]
  rfl

theorem memberNotes_eq (h : Readable bag) (members : Dict Json) :
    memberNotes bag members =
      (members.filter (!·.2.isNull)).flatMap fun e =>
        match check e.1 e.2 with
        | .ok _ => []
        | .error err => [.profileOption e.1 err] := by
  induction members generalizing bag with
  | nil => rfl
  | cons e members ih =>
    have hstep : Readable (addMember bag e) := (addMember_step h e {}).1
    rw [memberNotes, ih hstep, tryMember_eq h]
    cases hn : e.2.isNull with
    | true => simp [hn]
    | false => cases hc : check e.1 e.2 <;> simp [hn, hc, Except.map]

theorem notes_obj (members : Dict Json) :
    notes (.obj members) = (members.filter (!·.2.isNull)).flatMap fun e =>
      match check e.1 e.2 with
      | .ok _ => []
      | .error err => [.profileOption e.1 err] :=
  memberNotes_eq (readable_members {}) members

end Shorthand.Profile
