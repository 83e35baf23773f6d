/-
SchedPlane/Json/Writer.lean

Writing JSON values, without blanks.  In a string only the quote, the backslash and the
control characters below a space are escaped: the five with a letter of their own by
it, the others by four lower-case hexadecimal digits.
-/
import SchedPlane.Json.Value

namespace SchedPlane.Json

/-! ### Numbers -/

/-- The decimal digit of a number below ten. -/
def digitChar (d : Nat) : Char :=
  Char.ofNat (48 + d)

/-- The decimal digits of a natural. -/
def decimal (n : Nat) : List Char :=
  if n < 10 then [digitChar n] else decimal (n / 10) ++ [digitChar (n % 10)]
termination_by n
decreasing_by omega

/-- The written form of an integer. -/
def writeInt : Int → List Char
  | .ofNat n => decimal n
  | .negSucc n => '-' :: decimal (n + 1)

/-! ### Strings -/

/-- The lower-case hexadecimal digit of a number below sixteen. -/
def hexChar (d : Nat) : Char :=
  if d < 10 then Char.ofNat (48 + d) else Char.ofNat (87 + d)

/-- A character inside a string. -/
def escape (c : Char) : List Char :=
  if c = '"' then ['\\', '"']
  else if c = '\\' then ['\\', '\\']
  else if c = '\x08' then ['\\', 'b']
  else if c = '\x0c' then ['\\', 'f']
  else if c = '\n' then ['\\', 'n']
  else if c = '\r' then ['\\', 'r']
  else if c = '\t' then ['\\', 't']
  else if c.toNat < 32 then
    ['\\', 'u', '0', '0', hexChar (c.toNat / 16), hexChar (c.toNat % 16)]
  else [c]

/-- The inside of a string. -/
def escapeAll : List Char → List Char
  | [] => []
  | c :: rest => escape c ++ escapeAll rest

/-- A string with its quotes. -/
def writeString (s : String) : List Char :=
  '"' :: escapeAll s.toList ++ ['"']

/-! ### Values -/

mutual

/-- The written form of a value.  Values that only reading yields (a number that is no
integer, a string that denotes no text) are written as null. -/
def write : Json → List Char
  | .null => ['n', 'u', 'l', 'l']
  | .bool true => ['t', 'r', 'u', 'e']
  | .bool false => ['f', 'a', 'l', 's', 'e']
  | .int n => writeInt n
  | .real _ => ['n', 'u', 'l', 'l']
  | .text (some s) => writeString s
  | .text none => ['n', 'u', 'l', 'l']
  | .arr [] => ['[', ']']
  | .arr (j :: rest) => '[' :: write j ++ writeItems rest
  | .obj [] => ['{', '}']
  | .obj ((k, j) :: rest) => '{' :: writeString (k.getD "") ++ ':' :: write j ++ writeFields rest

/-- The items after the first, and the closing bracket. -/
def writeItems : List Json → List Char
  | [] => [']']
  | j :: rest => ',' :: write j ++ writeItems rest

/-- The fields after the first, and the closing brace. -/
def writeFields : List (Option String × Json) → List Char
  | [] => ['}']
  | (k, j) :: rest => ',' :: writeString (k.getD "") ++ ':' :: write j ++ writeFields rest

end

/-- The compact text of a value. -/
def render (j : Json) : String :=
  String.ofList (write j)

end SchedPlane.Json
