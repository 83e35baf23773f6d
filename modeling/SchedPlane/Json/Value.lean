/-
SchedPlane/Json/Value.lean

JSON values as reading yields them.  Only what later decides about a value is kept: the
fields of an object stay in order and with their repetitions, an integer below `2 ^ 64`
keeps its value, any other number only whether it lies in the range of doubles, and a
string that escapes half of a surrogate pair denotes no text.
-/

namespace SchedPlane

/-- A JSON value. -/
inductive Json where
  | null
  | bool (b : Bool)
  /-- A number written without fraction and exponent, of magnitude below `2 ^ 64` and other
  than minus zero. -/
  | int (n : Int)
  /-- Any other number, and whether it lies in the range of doubles. -/
  | real (inRange : Bool)
  /-- A string; `none` if it escapes half of a surrogate pair. -/
  | text (t : Option String)
  | arr (items : List Json)
  | obj (fields : List (Option String × Json))

namespace Json

/-- A string value. -/
def str (s : String) : Json := .text (some s)

/-- A number without sign. -/
def nat (n : Nat) : Json := .int (Int.ofNat n)

/-- An object with the given fields, in order. -/
def record (fields : List (String × Json)) : Json :=
  .obj (fields.map fun f => (some f.1, f.2))

/-! ### Values kept for later -/

mutual

/-- Whether a value can be kept until its type is known: its strings denote text, its
numbers lie in the range of doubles, and it nests at most `depth` deep. -/
def keepable (depth : Nat) : Json → Bool
  | .null => true
  | .bool _ => true
  | .int _ => true
  | .real inRange => inRange
  | .text t => t.isSome
  | .arr items => decide (0 < depth) && keepableItems (depth - 1) items
  | .obj fields => decide (0 < depth) && keepableFields (depth - 1) fields

/-- Whether all items of an array can be kept. -/
def keepableItems (depth : Nat) : List Json → Bool
  | [] => true
  | j :: rest => keepable depth j && keepableItems depth rest

/-- Whether all fields of an object can be kept. -/
def keepableFields (depth : Nat) : List (Option String × Json) → Bool
  | [] => true
  | (k, j) :: rest => k.isSome && keepable depth j && keepableFields depth rest

end

/-- How deep a value kept inside the outermost object or array may nest. -/
def keepDepth : Nat := 126

end Json

end SchedPlane
