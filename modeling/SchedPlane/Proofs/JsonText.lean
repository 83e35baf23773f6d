/-
SchedPlane/Proofs/JsonText.lean

Reading what was written.

`Json.Writable` says that writing loses nothing of a value: it has no number beside the integers
below `2 ^ 64` in magnitude, and its strings and keys denote text.  A written value followed by a
bracket, a brace or a comma is read back as that value, and what follows is left (`value?_write`).
The fuel of the reader is no matter: the length of a written value bounds how deep it is.

Main result: `parse?_render`.
-/
import Mathlib.Tactic.SplitIfs
import SchedPlane.Json.Reader
import SchedPlane.Json.Writer

namespace SchedPlane.Json

/-! ### Numbers -/

theorem digitChar_toNat {d : Nat} (small : d < 10) : (digitChar d).toNat = 48 + d := by
  have all : ∀ d < 10, (digitChar d).toNat = 48 + d := by decide
  exact all d small

theorem isDigit_digitChar {d : Nat} (small : d < 10) : isDigit (digitChar d) = true := by
  have bound : 48 + d ≤ 57 := by omega
  simp [isDigit, digitValue?, digitChar_toNat small, bound]

theorem isDigit_of_mem_decimal (n : Nat) : ∀ c ∈ decimal n, isDigit c = true := by
  induction n using decimal.induct with
  | case1 n small =>
    rw [decimal, if_pos small]
    intro c mem
    rw [List.mem_singleton.mp mem]
    exact isDigit_digitChar small
  | case2 n large ih =>
    rw [decimal, if_neg large]
    intro c mem
    rcases List.mem_append.mp mem with front | last
    · exact ih c front
    · rw [List.mem_singleton.mp last]
      exact isDigit_digitChar (Nat.mod_lt n (by decide))

/-- The digits of a number are read back. -/
theorem ofDigits_decimal (n : Nat) : ofDigits (decimal n) = n := by
  induction n using decimal.induct with
  | case1 n small =>
    rw [decimal, if_pos small]
    simp [ofDigits, digitChar_toNat small]
  | case2 n large ih =>
    rw [decimal, if_neg large]
    have last := digitChar_toNat (Nat.mod_lt n (by decide : 10 > 0))
    simp only [ofDigits, List.foldl_append, List.foldl_cons, List.foldl_nil] at ih ⊢
    rw [ih, last]
    omega

/-- Zero is written as such, and no other number starts with a zero. -/
theorem decimal_head (n : Nat) : ∃ c ds, decimal n = c :: ds ∧ (c = '0' → ds = []) := by
  induction n using decimal.induct with
  | case1 n small => exact ⟨digitChar n, [], by rw [decimal, if_pos small], fun _ => rfl⟩
  | case2 n large ih =>
    obtain ⟨c, ds, front, zero⟩ := ih
    refine ⟨c, ds ++ [digitChar (n % 10)], by rw [decimal, if_neg large, front]; rfl,
      fun lead => ?_⟩
    -- then the front is a lone zero, and the number is below ten
    exfalso
    have value := ofDigits_decimal (n / 10)
    rw [front, zero lead, lead] at value
    simp [ofDigits] at value
    omega

/-- What may follow a value: nothing, or the mark that ends it. -/
def Ends (rest : List Char) : Prop :=
  ∀ c ∈ rest.head?, c = ',' ∨ c = ']' ∨ c = '}'

theorem Ends.nil : Ends [] := by
  simp [Ends]

theorem Ends.cons {c : Char} (mark : c = ',' ∨ c = ']' ∨ c = '}') (rest : List Char) :
    Ends (c :: rest) := by
  simpa [Ends] using mark

/-- The digits of a number end where it ends. -/
theorem digits?_decimal (n : Nat) {rest : List Char} (ends : Ends rest) :
    digits? (decimal n ++ rest) = some (decimal n, rest) := by
  have all := isDigit_of_mem_decimal n
  have stop : rest.takeWhile isDigit = [] ∧ rest.dropWhile isDigit = rest := by
    rcases rest with - | ⟨c, rest⟩
    · exact ⟨rfl, rfl⟩
    · rcases ends c rfl with rfl | rfl | rfl <;> exact ⟨rfl, rfl⟩
  obtain ⟨c, ds, shape, -⟩ := decimal_head n
  unfold digits?
  rw [List.takeWhile_append_of_pos all, List.dropWhile_append_of_pos all, stop.1, stop.2, shape]
  simp

/-- A whole number is read up to where its digits end. -/
theorem whole?_decimal (n : Nat) {rest : List Char} (ends : Ends rest) :
    whole? (decimal n ++ rest) = some (decimal n, rest) := by
  obtain ⟨c, ds, shape, zero⟩ := decimal_head n
  unfold whole?
  rw [digits?_decimal n ends, shape]
  split
  · next same =>
    simp only [Option.some.injEq, Prod.mk.injEq] at same
    rw [same.1, same.2]
  · next more same =>
    simp only [Option.some.injEq, Prod.mk.injEq, List.cons.injEq] at same
    exact absurd (zero same.1.1) (by simpa [same.1.2] using more)
  · rfl

/-- A natural below the bound is read back, with either sign; zero has none. -/
theorem unsigned?_decimal (negative : Bool) {n : Nat} {rest : List Char} (ends : Ends rest)
    (small : n < significandBound) (sign : negative = true → n ≠ 0) :
    unsigned? negative (decimal n ++ rest) =
      some (.int (if negative then -Int.ofNat n else Int.ofNat n), rest) := by
  have noFraction : fraction? rest = some (none, rest) := by
    rcases rest with - | ⟨c, rest⟩
    · rfl
    · rcases ends c rfl with rfl | rfl | rfl <;> rfl
  have noExponent : exponent? rest = some (none, rest) := by
    rcases rest with - | ⟨c, rest⟩
    · rfl
    · rcases ends c rfl with rfl | rfl | rfl <;> rfl
  simpa [unsigned?, whole?_decimal n ends, noFraction, noExponent, number, ofDigits_decimal, small]
    using sign

/-- The first character of a number. -/
def StartsNumber (c : Char) : Prop :=
  c = '-' ∨ isDigit c = true

instance (c : Char) : Decidable (StartsNumber c) :=
  inferInstanceAs (Decidable (_ ∨ _))

/-- A number begins with a digit or the sign. -/
theorem writeInt_head (n : Int) : ∃ c cs, writeInt n = c :: cs ∧ StartsNumber c := by
  have natural (n : Nat) : ∃ c cs, decimal n = c :: cs ∧ StartsNumber c := by
    obtain ⟨c, ds, shape, -⟩ := decimal_head n
    exact ⟨c, ds, shape, .inr (isDigit_of_mem_decimal n c (by simp [shape]))⟩
  cases n with
  | ofNat n => exact natural n
  | negSucc n => exact ⟨'-', _, rfl, .inl rfl⟩

/-- A number is read back from its text. -/
theorem number?_writeInt {n : Int} {rest : List Char} (ends : Ends rest)
    (small : n.natAbs < significandBound) : number? (writeInt n ++ rest) = some (.int n, rest) := by
  cases n with
  | ofNat n =>
    obtain ⟨c, ds, shape, -⟩ := decimal_head n
    have digit := isDigit_of_mem_decimal n c (by simp [shape])
    -- a digit comes first, so there is no sign to take off
    have plain : number? (decimal n ++ rest) = unsigned? false (decimal n ++ rest) := by
      unfold number?
      split
      · next same =>
        rw [shape, List.cons_append, List.cons.injEq] at same
        rw [same.1] at digit
        cases digit
      · rfl
    rw [writeInt, plain, unsigned?_decimal false ends (n := n) small (fun sign => by cases sign)]
    rfl
  | negSucc n =>
    rw [writeInt, List.cons_append, number?,
      unsigned?_decimal true ends (n := n + 1) small (fun _ => Nat.succ_ne_zero n)]
    rfl

/-! ### Strings -/

theorem codeUnit?_hexChar {n : Nat} (small : n < 32) :
    codeUnit? '0' '0' (hexChar (n / 16)) (hexChar (n % 16)) = some n := by
  have all : ∀ n < 32, codeUnit? '0' '0' (hexChar (n / 16)) (hexChar (n % 16)) = some n := by decide
  exact all n small

/-- A backslash and a letter, other than the mark of a code unit, stand for a character. -/
theorem stringBody_letter {e c : Char} (stands : letterEscape? e = some c) (letter : e ≠ 'u')
    (rest : List Char) :
    stringBody ('\\' :: e :: rest) = (stringBody rest).map (StringRest.push c) := by
  rw [stringBody.eq_def]
  simp [stands, letter]

/-- The escape of a control character by its code unit. -/
theorem stringBody_unit {c : Char} (control : c.toNat < 32) (rest : List Char) :
    stringBody ('\\' :: 'u' :: '0' :: '0' :: hexChar (c.toNat / 16) :: hexChar (c.toNat % 16) ::
      rest) = (stringBody rest).map (StringRest.push c) := by
  have basic : isHigh c.toNat = false ∧ isLow c.toNat = false := by
    simp only [isHigh, isLow, Bool.and_eq_false_iff, decide_eq_false_iff_not]
    omega
  rw [stringBody.eq_def]
  simp [codeUnit?_hexChar control, basic]

/-- A character that is not escaped is read as itself. -/
theorem stringBody_plain {c : Char} (quote : c ≠ '"') (backslash : c ≠ '\\')
    (printable : ¬ c.toNat < 32) (rest : List Char) :
    stringBody (c :: rest) = (stringBody rest).map (StringRest.push c) := by
  rw [stringBody.eq_def]
  simp [backslash, printable]

/-- What an escape stands for is the character that it was written for. -/
theorem stringBody_escape (c : Char) (rest : List Char) :
    stringBody (escape c ++ rest) = (stringBody rest).map (StringRest.push c) := by
  unfold escape
  -- the characters with a letter of their own, the other control characters, and the rest
  split_ifs with quote backslash backspace feed line carriage tab control
  · subst quote
    exact stringBody_letter rfl (by decide) rest
  · subst backslash
    exact stringBody_letter rfl (by decide) rest
  · subst backspace
    exact stringBody_letter rfl (by decide) rest
  · subst feed
    exact stringBody_letter rfl (by decide) rest
  · subst line
    exact stringBody_letter rfl (by decide) rest
  · subst carriage
    exact stringBody_letter rfl (by decide) rest
  · subst tab
    exact stringBody_letter rfl (by decide) rest
  · exact stringBody_unit control rest
  · exact stringBody_plain quote backslash control rest

/-- The inside of a written string is read up to its closing quote. -/
theorem stringBody_escapeAll (cs rest : List Char) :
    stringBody (escapeAll cs ++ '"' :: rest) = some (some cs, rest) := by
  induction cs with
  | nil => rw [escapeAll, List.nil_append, stringBody]
  | cons c cs ih =>
    rw [escapeAll, List.append_assoc, stringBody_escape, ih]
    rfl

/-- A string is read back from its text, whatever follows. -/
theorem string?_writeString (s : String) (rest : List Char) :
    string? (writeString s ++ rest) = some (some s, rest) := by
  simp [writeString, string?, stringBody_escapeAll]

/-! ### Values -/

mutual

/-- Writing loses nothing of a value. -/
def Writable : Json → Prop
  | .null => True
  | .bool _ => True
  | .int n => n.natAbs < significandBound
  | .real _ => False
  | .text t => t.isSome
  | .arr items => WritableItems items
  | .obj fields => WritableFields fields

/-- Writing loses nothing of the items of an array. -/
def WritableItems : List Json → Prop
  | [] => True
  | j :: rest => Writable j ∧ WritableItems rest

/-- Writing loses nothing of the fields of an object. -/
def WritableFields : List (Option String × Json) → Prop
  | [] => True
  | (k, j) :: rest => k.isSome ∧ Writable j ∧ WritableFields rest

end

theorem skipBlanks_cons {c : Char} (mark : isBlank c = false) (cs : List Char) :
    skipBlanks (c :: cs) = c :: cs := by
  simp [skipBlanks, mark]

theorem StartsNumber.ne {c m : Char} (start : StartsNumber c) (other : ¬ StartsNumber m) : c ≠ m :=
  fun same => other (same ▸ start)

theorem StartsNumber.mark {c : Char} (start : StartsNumber c) : isBlank c = false ∧ c ≠ ']' := by
  refine ⟨?_, start.ne (by decide)⟩
  have blanks : c ≠ ' ' ∧ c ≠ '\n' ∧ c ≠ '\t' ∧ c ≠ '\r' :=
    ⟨start.ne (by decide), start.ne (by decide), start.ne (by decide), start.ne (by decide)⟩
  simp [isBlank, blanks]

/-- A written value starts with no blank and with no closing bracket. -/
theorem write_head (j : Json) :
    ∃ c cs, write j = c :: cs ∧ isBlank c = false ∧ c ≠ ']' := by
  cases j with
  | int n =>
    obtain ⟨c, cs, shape, start⟩ := writeInt_head n
    exact ⟨c, cs, by rw [write, shape], start.mark⟩
  | bool b => cases b <;> exact ⟨_, _, rfl, by decide, by decide⟩
  | text t => cases t <;> exact ⟨_, _, rfl, by decide, by decide⟩
  | arr items => cases items <;> exact ⟨_, _, rfl, by decide, by decide⟩
  | obj fields => cases fields <;> exact ⟨_, _, rfl, by decide, by decide⟩
  | null | real => exact ⟨_, _, rfl, by decide, by decide⟩

/-- A text that starts like a number is read as one. -/
theorem value?_number {c : Char} (start : StartsNumber c) (fuel : Nat) (cs : List Char) :
    value? (fuel + 1) (c :: cs) = number? (c :: cs) := by
  rw [value?, skipBlanks_cons start.mark.1]
  split
  case h_7 => rfl
  all_goals
    next same => exact absurd (List.cons.inj same).1 (start.ne (by decide))

/-- An array that does not close at once has items. -/
theorem value?_array {c : Char} (mark : isBlank c = false) (opened : c ≠ ']') (fuel : Nat)
    (cs : List Char) :
    value? (fuel + 1) ('[' :: c :: cs) =
      (items? fuel (c :: cs)).map fun p => (.arr p.1, p.2) := by
  rw [value?, skipBlanks_cons (by decide)]
  simp only [skipBlanks_cons mark]
  split
  · next same => exact absurd (List.cons.inj same).1 opened
  · rfl

/-- An object whose first key follows has fields. -/
theorem value?_object (fuel : Nat) (cs : List Char) :
    value? (fuel + 1) ('{' :: '"' :: cs) =
      (fields? fuel ('"' :: cs)).map fun p => (.obj p.1, p.2) := by
  rw [value?, skipBlanks_cons (by decide)]
  simp only [skipBlanks_cons (show isBlank '"' = false by decide)]
  rfl

theorem ends_writeItems (items : List Json) (rest : List Char) :
    Ends (writeItems items ++ rest) := by
  cases items <;> exact .cons (by decide) _

theorem ends_writeFields (fields : List (Option String × Json)) (rest : List Char) :
    Ends (writeFields fields ++ rest) := by
  rcases fields with - | ⟨⟨k, j⟩, fields⟩ <;> exact .cons (by decide) _

/-- With so much fuel, written values no longer than it are read back. -/
def ReadsValues (fuel : Nat) : Prop :=
  ∀ j, Writable j → ∀ rest, Ends rest → (write j).length ≤ fuel →
    value? fuel (write j ++ rest) = some (j, rest)

/-- With so much fuel, written items are read back, up to the bracket after them. -/
def ReadsItems (fuel : Nat) : Prop :=
  ∀ j items, Writable j → WritableItems items → ∀ rest,
    (write j).length + (writeItems items).length ≤ fuel →
    items? fuel (write j ++ writeItems items ++ rest) = some (j :: items, rest)

/-- With so much fuel, written fields are read back, up to the brace after them. -/
def ReadsFields (fuel : Nat) : Prop :=
  ∀ k j fields, WritableFields ((some k, j) :: fields) → ∀ rest,
    (write j).length + (writeFields fields).length ≤ fuel →
    fields? fuel (writeString k ++ ':' :: write j ++ writeFields fields ++ rest) =
      some ((some k, j) :: fields, rest)

/-- With one more unit of fuel, values are read if their items and fields are. -/
theorem readsValues_succ {fuel : Nat} (items : ReadsItems fuel) (fields : ReadsFields fuel) :
    ReadsValues (fuel + 1) := by
  intro j writable rest ends enough
  -- a number out of bounds and a string without a text are not writable
  match j with
  | .null | .bool true | .bool false | .arr [] | .obj [] =>
    simp [write, value?, skipBlanks, isBlank]
  | .int n =>
    obtain ⟨c, cs, shape, start⟩ := writeInt_head n
    rw [write, shape, List.cons_append, value?_number start, ← List.cons_append, ← shape,
      number?_writeInt ends writable]
  | .text (some s) =>
    have read := string?_writeString s rest
    simp only [writeString, List.cons_append] at read
    simp only [write, writeString, List.cons_append, value?,
      skipBlanks_cons (show isBlank '"' = false by decide), read]
    rfl
  | .arr (j :: later) =>
    obtain ⟨c, cs, shape, mark, opened⟩ := write_head j
    simp only [write, List.length_cons, List.length_append] at enough
    have read := items j later writable.1 writable.2 rest (by omega)
    simp only [shape, List.cons_append] at read
    simp only [write, shape, List.cons_append, value?_array mark opened, read]
    rfl
  | .obj ((some k, j) :: later) =>
    simp only [write, List.length_cons, List.length_append] at enough
    have read := fields k j later writable rest (by omega)
    simp only [writeString, List.cons_append] at read
    simp only [write, Option.getD_some, writeString, List.cons_append, value?_object, read]
    rfl

/-- With one more unit of fuel, items are read if values and the items behind them are. -/
theorem readsItems_succ {fuel : Nat} (values : ReadsValues fuel) (items : ReadsItems fuel) :
    ReadsItems (fuel + 1) := by
  intro j later first more rest enough
  rw [items?, List.append_assoc]
  cases later with
  | nil =>
    -- the bracket that ends the last item is what the reader looks for
    rw [values j first _ (ends_writeItems [] rest) (by simpa [writeItems] using enough)]
    simp [writeItems, skipBlanks_cons (show isBlank ']' = false by decide)]
  | cons next later =>
    simp only [writeItems, List.length_cons, List.length_append] at enough
    have read := items next later more.1 more.2 rest (by omega)
    rw [values j first _ (ends_writeItems (next :: later) rest) (by omega)]
    simp only [writeItems, List.cons_append, skipBlanks_cons (show isBlank ',' = false by decide),
      read]
    rfl

/-- With one more unit of fuel, fields are read if values and the fields behind them are. -/
theorem readsFields_succ {fuel : Nat} (values : ReadsValues fuel) (fields : ReadsFields fuel) :
    ReadsFields (fuel + 1) := by
  intro k j later ⟨_, first, more⟩ rest enough
  have named := string?_writeString k (':' :: write j ++ writeFields later ++ rest)
  have quoted : skipBlanks (writeString k ++ (':' :: write j ++ writeFields later ++ rest)) =
      writeString k ++ (':' :: write j ++ writeFields later ++ rest) :=
    skipBlanks_cons (by decide) _
  simp only [fields?, List.append_assoc, List.cons_append] at named quoted ⊢
  rw [quoted, named]
  simp only [skipBlanks_cons (show isBlank ':' = false by decide)]
  match later with
  | [] =>
    rw [values j first _ (ends_writeFields [] rest) (by simpa [writeFields] using enough)]
    simp [writeFields, skipBlanks_cons (show isBlank '}' = false by decide)]
  | (some k, next) :: later =>
    simp only [writeFields, List.length_cons, List.length_append] at enough
    have read := fields k next later more rest (by omega)
    rw [values j first _ (ends_writeFields ((some k, next) :: later) rest) (by omega)]
    simp only [List.append_assoc, List.cons_append] at read
    simp only [writeFields, Option.getD_some, List.append_assoc, List.cons_append,
      skipBlanks_cons (show isBlank ',' = false by decide), read]
    rfl

/-- The three readers take the fuel of a level from the level above, so they go up together. -/
theorem reads (fuel : Nat) : ReadsValues fuel ∧ ReadsItems fuel ∧ ReadsFields fuel := by
  induction fuel with
  | zero =>
    refine ⟨fun j _ rest _ enough => ?_, fun j items _ _ rest enough => ?_,
      fun k j fields _ rest enough => ?_⟩
    all_goals
      obtain ⟨c, cs, shape, -⟩ := write_head j
      simp [shape] at enough
  | succ fuel ih =>
    obtain ⟨values, items, fields⟩ := ih
    exact ⟨readsValues_succ items fields, readsItems_succ values items,
      readsFields_succ values fields⟩

/-- A value is read back from its text. -/
theorem parse?_render {j : Json} (writable : Writable j) : parse? (render j) = some j := by
  have read := (reads (2 * (write j).length + 2)).1 j writable [] .nil (by omega)
  rw [List.append_nil] at read
  simp [parse?, render, read, skipBlanks]

end SchedPlane.Json
