/-! # Dictionaries

A dictionary lists its entries by increasing key. Keys are compared by code points, which is
also the order of their UTF-8 bytes.
-/

namespace Shorthand

/-- Entries by increasing key, one entry per key. -/
abbrev Dict (α : Type u) := List (String × α)

namespace Dict

variable {α : Type u} {β : Type v}

def get? (d : Dict α) (key : String) : Option α :=
  d.lookup key

def contains (d : Dict α) (key : String) : Bool :=
  (d.get? key).isSome

def keys (d : Dict α) : List String :=
  d.map Prod.fst

def insert (key : String) (a : α) : Dict α → Dict α
  | [] => [(key, a)]
  | (k, b) :: d =>
    if key = k then (key, a) :: d
    else if key < k then (key, a) :: (k, b) :: d
    else (k, b) :: insert key a d

def erase (d : Dict α) (key : String) : Dict α :=
  d.filter (·.1 ≠ key)

/-- Later entries replace earlier ones of the same key. -/
def ofList (entries : List (String × α)) : Dict α :=
  entries.foldl (fun d e => insert e.1 e.2 d) []

def mapValues (f : α → β) (d : Dict α) : Dict β :=
  d.map fun e => (e.1, f e.2)

/-- Keys strictly increase. -/
def Sorted (d : Dict α) : Prop :=
  d.Pairwise (·.1 < ·.1)

@[simp] theorem get?_nil (key : String) : get? ([] : Dict α) key = none :=
  rfl

theorem get?_cons (k key : String) (a : α) (d : Dict α) :
    get? ((k, a) :: d) key = if key = k then some a else get? d key := by
  change (match key == k with | true => some a | false => get? d key) = _
  by_cases h : key = k
  · simp [h]
  · simp [h, beq_false_of_ne h]

theorem get?_insert (key k : String) (a : α) (d : Dict α) :
    get? (insert key a d) k = if k = key then some a else get? d k := by
  induction d with
  | nil => simp [insert, get?_cons]
  | cons e d ih =>
    obtain ⟨l, b⟩ := e
    rw [insert]
    split
    · subst key; simp only [get?_cons]; split <;> rfl
    · split
      · simp only [get?_cons]
      · simp only [get?_cons, ih]
        by_cases h : k = l
        · subst h; simp [Ne.symm ‹¬key = k›]
        · simp [h]

end Dict

end Shorthand
