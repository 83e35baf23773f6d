/-
SchedPlane/Json/Form.lean

The JSON form of a type, and the shapes that forms are made of.  A record is an object
of its fields, or an array of them in order; reading ignores other fields and refuses
repeated ones.  A variant without payload is its name, or an object of its name and
null.  A tagged variant keeps its name under one key and, where it has a payload, the
payload under another key (`adjacent?`) or its fields beside the tag (`internal?`).
-/
import SchedPlane.Bytes
import SchedPlane.Json.Value

namespace SchedPlane

/-- A type with a JSON form: how values are written, and how they are read. -/
class Form (α : Type) where
  toJson : α → Json
  ofJson? : Json → Option α

export Form (toJson)

/-- Reads a value of a type. -/
def Json.as? (α : Type) [Form α] (j : Json) : Option α :=
  Form.ofJson? j

namespace Json

/-! ### Records -/

/-- The values of all fields of one name. -/
def named (name : String) (fields : List (Option String × Json)) : List Json :=
  (fields.filter fun f => f.1 == some name).map (·.2)

/-- The value of a field, if it is there; a repeated field is refused. -/
def pick? (fields : List (Option String × Json)) (name : String) : Option (Option Json) :=
  match named name fields with
  | [] => some none
  | [j] => some (some j)
  | _ => none

/-- The fields of an object that a record has, by position. -/
def keyed? (names : List String) (fields : List (Option String × Json)) :
    Option (List (Option Json)) :=
  if fields.all (·.1.isSome) then names.mapM (pick? fields) else none

/-- The fields of a record, by position, from an object or an array. -/
def columns? (names : List String) : Json → Option (List (Option Json))
  | .arr items => if items.length = names.length then some (items.map some) else none
  | .obj fields => keyed? names fields
  | _ => none

/-- The fields of a record that may only be an object. -/
def objectColumns? (names : List String) : Json → Option (List (Option Json))
  | .obj fields => keyed? names fields
  | _ => none

/-! ### Variants -/

/-- The name of a variant without payload. -/
def variantName? : Json → Option String
  | .text t => t
  | .obj [(some name, .null)] => some name
  | _ => none

/-- The tag of a variant, with its payload if there is one.  In an array the tag is a string;
under its key it may also be an object of the name and null.  A payload that comes before
its tag has to be kept until the tag is known. -/
def adjacent? (tag content : String) : Json → Option (String × Option Json)
  | .arr [.text (some name), c] => some (name, some c)
  | .obj fields => do
    let columns ← keyed? [tag, content] fields
    match columns with
    | [some t, none] => (variantName? t).map fun name => (name, none)
    | [some t, some c] =>
      let tagFirst := (fields.find? fun f => f.1 == some tag || f.1 == some content).any
        fun f => f.1 == some tag
      if tagFirst || keepable keepDepth c then
        (variantName? t).map fun name => (name, some c)
      else none
    | _ => none
  | _ => none

/-- The tag of a variant whose fields stand beside it, and what remains without the tag.
All of it has to be kept until the tag is known. -/
def internal? (tag : String) : Json → Option (String × Json)
  | .arr (.text (some name) :: rest) =>
    if keepableItems keepDepth rest then some (name, .arr rest) else none
  | .obj fields => do
    let columns ← keyed? [tag] fields
    let rest := fields.filter fun f => f.1 != some tag
    match columns with
    | [some (.text (some name))] =>
      if keepableFields keepDepth rest then some (name, .obj rest) else none
    | _ => none
  | _ => none

/-! ### Basic forms -/

/-- The natural that a value denotes, if it is below a bound. -/
def natBelow? (bound : Nat) : Json → Option Nat
  | .int (.ofNat n) => if n < bound then some n else none
  | _ => none

end Json

instance : Form String where
  toJson := Json.str
  ofJson?
    | .text t => t
    | _ => none

instance : Form Bool where
  toJson := Json.bool
  ofJson?
    | .bool b => some b
    | _ => none

instance : Form Int32 where
  toJson x := .int x.toInt
  ofJson?
    | .int n => if -2147483648 ≤ n ∧ n ≤ 2147483647 then some (Int32.ofInt n) else none
    | _ => none

instance : Form UInt8 where
  toJson x := .nat x.toNat
  ofJson? j := (j.natBelow? UInt8.size).map UInt8.ofNat

instance : Form UInt32 where
  toJson x := .nat x.toNat
  ofJson? j := (j.natBelow? UInt32.size).map UInt32.ofNat

instance : Form UInt64 where
  toJson x := .nat x.toNat
  ofJson? j := (j.natBelow? UInt64.size).map UInt64.ofNat

instance {α : Type} [Form α] : Form (List α) where
  toJson xs := .arr (xs.map toJson)
  ofJson?
    | .arr items => items.mapM (Json.as? α)
    | _ => none

/-- Null stands for absence. -/
instance {α : Type} [Form α] : Form (Option α) where
  toJson
    | none => .null
    | some x => toJson x
  ofJson?
    | .null => some none
    | j => (j.as? α).map some

end SchedPlane
