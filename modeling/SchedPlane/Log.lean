/-
SchedPlane/Log.lean

Log lines and their filter.  A filter is a comma-separated list of entries: a level, a
target with a level, or a target alone, which lets everything of it through.  Brackets
after the target name a span, and the entry is then for the lines inside such a span.  A
line is let through by the entry with the longest target that its own target starts
with; where no entry matches nothing is.  Of two entries for one target the later counts.
-/
import SchedPlane.Text.Alphanumeric
import SchedPlane.Text.Blank

namespace SchedPlane

/-! ### Lines -/

/-- The level of a log line. -/
inductive LogLevel where
  | error | warn | info | debug | trace
  deriving DecidableEq, Repr

namespace LogLevel

/-- The written name of a level. -/
def label : LogLevel → String
  | .error => "ERROR"
  | .warn => "WARN"
  | .info => "INFO"
  | .debug => "DEBUG"
  | .trace => "TRACE"

/-- How much detail a level stands for. -/
def rank : LogLevel → Nat
  | .error => 1
  | .warn => 2
  | .info => 3
  | .debug => 4
  | .trace => 5

/-- The number that decimal digits denote, a plus sign before them allowed. -/
def number? (text : String) : Option Nat :=
  let digits := match text.toList with
    | '+' :: rest => rest
    | cs => cs
  if digits.isEmpty || !digits.all Char.isDigit then none
  else some (digits.foldl (fun n c => 10 * n + (c.toNat - 48)) 0)

/-- The rank that a text names: a number up to five, or a level in any case. -/
def rank? (text : String) : Option Nat :=
  match number? text with
  | some n => if n ≤ trace.rank then some n else none
  | none =>
    let word := text.map Char.toLower
    if word = "off" then some 0
    else if word = "error" then some error.rank
    else if word = "warn" then some warn.rank
    else if word = "info" then some info.rank
    else if word = "debug" then some debug.rank
    else if word = "trace" then some trace.rank
    else none

/-- The rank that the text after an equals sign names; without text it is the highest. -/
def rankAfter? (level : List Char) : Option Nat :=
  if level.isEmpty then some trace.rank else rank? (String.ofList level)

end LogLevel

/-- A log line: its level, the part of the program it comes from, its message, and named
texts that are written with it. -/
structure LogLine where
  level : LogLevel
  target : String
  message : String
  details : List (String × String) := []
  deriving DecidableEq, Repr

/-! ### Filters -/

/-- An entry of a filter: the lines of a target up to a rank.  Without a target it is for
all lines. -/
structure LogRule where
  target : Option String
  /-- Zero lets nothing through. -/
  rank : Nat
  /-- Whether it is only for lines inside a span.  The program opens none. -/
  inSpan : Bool := false
  deriving DecidableEq, Repr

namespace LogRule

/-- Whether a target may start with a character. -/
def startsTarget (c : Char) : Bool :=
  Text.isAlphanumeric c || c = '-' || c = ':' || c = '_'

/-- The rule with what follows the target and span of an entry: nothing but blanks, or an
equals sign and a level up to the end, blanks included.  An indented entry takes no level. -/
def withLevel? (r : LogRule) (indented : Bool) (cs : List Char) : Option LogRule :=
  if cs.all Text.isBlank then some r
  else
    match cs with
    | '=' :: level =>
      if indented then none else (LogLevel.rankAfter? level).map fun rank => { r with rank }
    | _ => none

/-- The rule with the span that follows an opening bracket.  A bracket that is never closed
opens nothing; in the span, braces hold the fields that it must have. -/
def withSpan? (r : LogRule) (indented : Bool) (cs : List Char) : Option LogRule :=
  let spanned := { r with inSpan := true }
  match cs.dropWhile fun c => c != ']' && c != '\x7b' with
  | [] => some r
  | ']' :: rest => spanned.withLevel? indented rest
  | _ :: fields =>
    match fields.dropWhile (· != '\x7d') with
    | [] => some spanned
    | _ :: rest =>
      if fields.head? = some '\x7d' then none
      else if rest.all Text.isBlank then some spanned
      else
        match rest with
        | ']' :: after => spanned.withLevel? indented after
        | _ => none

/-- The rule that lets everything of a target through, or all lines. -/
def everything (target : Option String) : LogRule where
  target := target
  rank := LogLevel.trace.rank

/-- Whether a character ends the target of an entry. -/
def endsTarget (c : Char) : Bool := c = '=' || c = '['

/-- The entry that a text denotes.  Blanks before it belong to its target and rule out a
level; an entry of blanks is for all lines. -/
def ofText? (text : String) : Option LogRule :=
  let cs := text.toList
  let body := cs.dropWhile Text.isBlank
  let indented := decide (body.length < cs.length)
  let named := everything (some (String.ofList (cs.takeWhile (!endsTarget ·))))
  match body with
  | [] => some (everything none)
  | '[' :: span => (everything none).withSpan? indented span
  | first :: _ =>
    if !startsTarget first then none
    else
      match body.dropWhile (!endsTarget ·) with
      | [] =>
        match LogLevel.rank? text with
        | some rank => some { target := none, rank }
        | none => some (everything (some text))
      | '[' :: span => named.withSpan? indented span
      | level => named.withLevel? indented level

end LogRule

/-- A filter of log lines. -/
abbrev LogFilter := List LogRule

namespace LogFilter

/-- The filter that a text denotes; empty entries are passed over. -/
def parse? (text : String) : Option LogFilter :=
  ((text.splitOn ",").filter (· != "")).mapM LogRule.ofText?

/-- The filter in use where none is given, or one that cannot be read. -/
def standard : LogFilter := [{ target := none, rank := LogLevel.info.rank }]

/-- The filter of an environment variable. -/
def ofVariable (value : Option String) : LogFilter :=
  (value.bind parse?).getD standard

/-- How specific an entry is to a target; `none` if it does not match. -/
def specificity (target : String) (r : LogRule) : Option Nat :=
  if r.inSpan then none
  else
    match r.target with
    | none => some 0
    | some t => if t.isPrefixOf target then some (t.length + 1) else none

/-- The rank that a filter lets through for a target. -/
def rankFor (f : LogFilter) (target : String) : Nat :=
  (f.foldl
    (fun (best : Nat × Nat) r =>
      match specificity target r with
      | some s => if best.1 ≤ s then (s, r.rank) else best
      | none => best)
    (0, 0)).2

/-- Whether a filter lets a line through. -/
def allows (f : LogFilter) (l : LogLine) : Bool :=
  decide (l.level.rank ≤ f.rankFor l.target)

end LogFilter

end SchedPlane
