/-
SchedPlane/Table.lean

Finite maps with names as keys, as lists of entries: `get?` finds the entry of a name,
`set` replaces it where it stands or appends it, `erase` removes it.
-/

namespace SchedPlane

/-- A finite map from names. -/
abbrev Table (α : Type) := List (String × α)

namespace Table

variable {α : Type}

/-- The entry of a name. -/
def get? (name : String) : Table α → Option α
  | [] => none
  | (k, v) :: rest => if k = name then some v else get? name rest

/-- The table with an entry replaced, or appended if it was absent. -/
def set (name : String) (value : α) : Table α → Table α
  | [] => [(name, value)]
  | (k, v) :: rest => if k = name then (k, value) :: rest else (k, v) :: set name value rest

/-- The table without the entries of a name. -/
def erase (name : String) (t : Table α) : Table α :=
  t.filter fun e => e.1 != name

/-- The entries by ascending name. -/
def sorted (t : Table α) : Table α :=
  t.mergeSort fun a b => a.1 ≤ b.1

@[simp] theorem get?_set_self (name : String) (value : α) (t : Table α) :
    (t.set name value).get? name = some value := by
  induction t with
  | nil => simp [set, get?]
  | cons e rest ih =>
    by_cases h : e.1 = name
    · simp [set, get?, h]
    · simp [set, get?, h, ih]

theorem get?_set_of_ne {name other : String} (h : name ≠ other) (value : α) (t : Table α) :
    (t.set name value).get? other = t.get? other := by
  induction t with
  | nil => simp [set, get?, h]
  | cons e rest ih =>
    by_cases h' : e.1 = name
    · have : ¬ e.1 = other := fun h'' => h (h' ▸ h'')
      simp [set, get?, h', h]
    · simp only [set, h', if_false, get?, ih]

end Table

end SchedPlane
