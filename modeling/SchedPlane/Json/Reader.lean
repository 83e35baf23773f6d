/-
SchedPlane/Json/Reader.lean

Reading JSON text.  The reader is total: values nest no deeper than the text is long, so
the length of the text bounds the recursion.  It accepts exactly the grammar of JSON,
with blanks around the value and nothing after it; a string that escapes half of a
surrogate pair is accepted and denotes no text.
-/
import SchedPlane.Json.Magnitude
import SchedPlane.Json.Value

namespace SchedPlane.Json

/-- Whether a character may stand between tokens. -/
def isBlank (c : Char) : Bool :=
  c = ' ' || c = '\n' || c = '\t' || c = '\r'

/-- The text after leading blanks. -/
def skipBlanks (cs : List Char) : List Char :=
  cs.dropWhile isBlank

/-! ### Numbers -/

/-- The value of a decimal digit. -/
def digitValue? (c : Char) : Option Nat :=
  if 48 ≤ c.toNat ∧ c.toNat ≤ 57 then some (c.toNat - 48) else none

/-- Whether a character is a decimal digit. -/
def isDigit (c : Char) : Bool :=
  (digitValue? c).isSome

/-- The natural that a list of decimal digits denotes. -/
def ofDigits (ds : List Char) : Nat :=
  ds.foldl (fun n c => 10 * n + (c.toNat - 48)) 0

/-- The leading digits, at least one, and the text after them. -/
def digits? (cs : List Char) : Option (List Char × List Char) :=
  match cs.takeWhile isDigit with
  | [] => none
  | ds => some (ds, cs.dropWhile isDigit)

/-- The digits before the point: a lone zero, or digits that start with none. -/
def whole? (cs : List Char) : Option (List Char × List Char) :=
  match digits? cs with
  | some (['0'], rest) => some (['0'], rest)
  | some ('0' :: _, _) => none
  | other => other

/-- The digits of a fraction, none if there is no point. -/
def fraction? : List Char → Option (Option (List Char) × List Char)
  | '.' :: rest => (digits? rest).map fun p => (some p.1, p.2)
  | cs => some (none, cs)

/-- The exponent, none if there is no mark. -/
def exponent? (cs : List Char) : Option (Option Int × List Char) :=
  let signed (rest : List Char) : Option (Option Int × List Char) :=
    match rest with
    | '-' :: r => (digits? r).map fun p => (some (-Int.ofNat (ofDigits p.1)), p.2)
    | '+' :: r => (digits? r).map fun p => (some (Int.ofNat (ofDigits p.1)), p.2)
    | r => (digits? r).map fun p => (some (Int.ofNat (ofDigits p.1)), p.2)
  match cs with
  | 'e' :: rest => signed rest
  | 'E' :: rest => signed rest
  | _ => some (none, cs)

/-- The values of decimal digits. -/
def digitValues (ds : List Char) : List Nat :=
  ds.map fun c => c.toNat - 48

/-- The number with the given parts: an integer where only the whole part is written, it is
below the bound of significands, and it is not minus zero. -/
def number (negative : Bool) (ds : List Char) (frac : Option (List Char))
    (exp : Option Int) : Json :=
  let n := ofDigits ds
  if frac.isNone && exp.isNone && decide (n < significandBound) && !(negative && n == 0) then
    .int (if negative then -Int.ofNat n else Int.ofNat n)
  else .real (decimalFits (digitValues ds) (digitValues (frac.getD [])) (exp.getD 0))

/-- The number after its sign. -/
def unsigned? (negative : Bool) (cs : List Char) : Option (Json × List Char) := do
  let (ds, afterWhole) ← whole? cs
  let (frac, afterFraction) ← fraction? afterWhole
  let (exp, rest) ← exponent? afterFraction
  return (number negative ds frac exp, rest)

/-- The number at the start of the text. -/
def number? : List Char → Option (Json × List Char)
  | '-' :: rest => unsigned? true rest
  | cs => unsigned? false cs

/-! ### Strings -/

/-- The value of a hexadecimal digit. -/
def hexValue? (c : Char) : Option Nat :=
  let n := c.toNat
  if 48 ≤ n ∧ n ≤ 57 then some (n - 48)
  else if 97 ≤ n ∧ n ≤ 102 then some (n - 87)
  else if 65 ≤ n ∧ n ≤ 70 then some (n - 55)
  else none

/-- The code unit that four hexadecimal digits denote. -/
def codeUnit? (a b c d : Char) : Option Nat := do
  let a ← hexValue? a
  let b ← hexValue? b
  let c ← hexValue? c
  let d ← hexValue? d
  return ((a * 16 + b) * 16 + c) * 16 + d

/-- Whether a code unit starts a surrogate pair. -/
def isHigh (n : Nat) : Bool := decide (0xD800 ≤ n) && decide (n < 0xDC00)

/-- Whether a code unit ends a surrogate pair. -/
def isLow (n : Nat) : Bool := decide (0xDC00 ≤ n) && decide (n < 0xE000)

/-- The character of a surrogate pair. -/
def pairChar (high low : Nat) : Char :=
  Char.ofNat (0x10000 + (high - 0xD800) * 0x400 + (low - 0xDC00))

/-- The low half of a pair that the text starts with, escaped, and the text after it. -/
def lowHalf? : List Char → Option (Nat × List Char)
  | '\\' :: 'u' :: a :: b :: c :: d :: rest =>
    match codeUnit? a b c d with
    | some n => if isLow n then some (n, rest) else none
    | none => none
  | _ => none

/-- The character that a backslash and a letter stand for. -/
def letterEscape? (c : Char) : Option Char :=
  if c = '"' then some '"'
  else if c = '\\' then some '\\'
  else if c = '/' then some '/'
  else if c = 'b' then some '\x08'
  else if c = 'f' then some '\x0c'
  else if c = 'n' then some '\n'
  else if c = 'r' then some '\r'
  else if c = 't' then some '\t'
  else none

/-- The characters of a string and the text after it; the characters are missing if the
string denotes no text. -/
abbrev StringRest := Option (List Char) × List Char

/-- A character in front of the rest of a string. -/
def StringRest.push (c : Char) (p : StringRest) : StringRest :=
  (p.1.map (c :: ·), p.2)

/-- A string that denotes no text, whatever its rest. -/
def StringRest.broken (p : StringRest) : StringRest :=
  (none, p.2)

/-- Half of a surrogate pair swallows no character of the text. -/
theorem length_lowHalf? {cs : List Char} {n : Nat} {rest : List Char}
    (h : lowHalf? cs = some (n, rest)) : rest.length < cs.length := by
  unfold lowHalf? at h
  split at h
  · split at h
    · split at h
      · simp only [Option.some.injEq, Prod.mk.injEq] at h
        rw [← h.2]; simp only [List.length_cons]; omega
      · simp at h
    · simp at h
  · simp at h

/-- The inside of a string, after its opening quote, up to the closing one. -/
def stringBody : List Char → Option StringRest
  | [] => none
  | '"' :: rest => some (some [], rest)
  | '\\' :: 'u' :: a :: b :: c :: d :: rest =>
    match codeUnit? a b c d with
    | none => none
    | some n =>
      if isHigh n then
        match _h : lowHalf? rest with
        | some (m, after) => (stringBody after).map (StringRest.push (pairChar n m))
        | none => (stringBody rest).map StringRest.broken
      else if isLow n then (stringBody rest).map StringRest.broken
      else (stringBody rest).map (StringRest.push (Char.ofNat n))
  | '\\' :: e :: rest =>
    match letterEscape? e with
    | some c => (stringBody rest).map (StringRest.push c)
    | none => none
  | c :: rest => if c.toNat < 32 then none else (stringBody rest).map (StringRest.push c)
termination_by cs => cs.length
decreasing_by
  all_goals simp only [List.length_cons]
  · have := length_lowHalf? _h; omega
  all_goals omega

/-- The string at the start of the text, which begins with its quote. -/
def string? : List Char → Option (Option String × List Char)
  | '"' :: rest => (stringBody rest).map fun p => (p.1.map String.ofList, p.2)
  | _ => none

/-! ### Values -/

mutual

/-- The value at the start of the text, after blanks, and the text after it. -/
def value? : Nat → List Char → Option (Json × List Char)
  | 0, _ => none
  | fuel + 1, cs =>
    match skipBlanks cs with
    | 'n' :: 'u' :: 'l' :: 'l' :: rest => some (.null, rest)
    | 't' :: 'r' :: 'u' :: 'e' :: rest => some (.bool true, rest)
    | 'f' :: 'a' :: 'l' :: 's' :: 'e' :: rest => some (.bool false, rest)
    | '"' :: rest => (string? ('"' :: rest)).map fun p => (.text p.1, p.2)
    | '[' :: rest =>
      match skipBlanks rest with
      | ']' :: after => some (.arr [], after)
      | after => (items? fuel after).map fun p => (.arr p.1, p.2)
    | '{' :: rest =>
      match skipBlanks rest with
      | '}' :: after => some (.obj [], after)
      | after => (fields? fuel after).map fun p => (.obj p.1, p.2)
    | other => number? other

/-- The items of an array, at least one, up to the closing bracket. -/
def items? : Nat → List Char → Option (List Json × List Char)
  | 0, _ => none
  | fuel + 1, cs =>
    match value? fuel cs with
    | none => none
    | some (j, afterValue) =>
      match skipBlanks afterValue with
      | ',' :: rest => (items? fuel rest).map fun p => (j :: p.1, p.2)
      | ']' :: rest => some ([j], rest)
      | _ => none

/-- The fields of an object, at least one, up to the closing brace. -/
def fields? : Nat → List Char → Option (List (Option String × Json) × List Char)
  | 0, _ => none
  | fuel + 1, cs =>
    match string? (skipBlanks cs) with
    | none => none
    | some (k, afterKey) =>
      match skipBlanks afterKey with
      | ':' :: afterColon =>
        match value? fuel afterColon with
        | none => none
        | some (j, afterValue) =>
          match skipBlanks afterValue with
          | ',' :: rest => (fields? fuel rest).map fun p => ((k, j) :: p.1, p.2)
          | '}' :: rest => some ([(k, j)], rest)
          | _ => none
      | _ => none

end

/-- The value that a text denotes, if it is JSON. -/
def parse? (s : String) : Option Json :=
  let cs := s.toList
  match value? (2 * cs.length + 2) cs with
  | some (j, rest) => if (skipBlanks rest).isEmpty then some j else none
  | none => none

end SchedPlane.Json
