/-
SchedPlane/Worker.lean

Background workers and their stop flags.  A stop flag is shared: setting it through one of
its names sets it for all.  A worker runs a body until that returns or panics; its guard
can stop it, which sets its flag and waits for its end, any number of times, and
dropping the guard stops it too.
-/

namespace SchedPlane

/-! ### Stop flags -/

/-- A collection of names for stop flags.  A name holds the number of its flag. -/
structure StopFlags where
  flags : List Bool
  names : List Nat
  deriving DecidableEq, Repr

namespace StopFlags

/-- One flag under one name, not set. -/
def single : StopFlags where
  flags := [false]
  names := [0]

/-- Sets the flag of a name. -/
def set (f : StopFlags) (name : Nat) : StopFlags :=
  match f.names[name]? with
  | some n => { f with flags := f.flags.set n true }
  | none => f

/-- Adds another name for the flag of a name. -/
def share (f : StopFlags) (name : Nat) : StopFlags :=
  match f.names[name]? with
  | some n => { f with names := f.names ++ [n] }
  | none => f

/-- Adds a name for a flag of its own. -/
def fresh (f : StopFlags) : StopFlags where
  flags := f.flags ++ [false]
  names := f.names ++ [f.flags.length]

/-- Whether each name's flag is set. -/
def values (f : StopFlags) : List Bool :=
  f.names.map fun n => (f.flags[n]?).getD false

end StopFlags

/-! ### Workers -/

/-- What a worker does. -/
inductive WorkerBody where
  /-- Runs until its stop flag is set, and says so. -/
  | untilStopped
  /-- Returns at once, and says so. -/
  | returns
  | panics
  deriving DecidableEq, Repr

/-- A worker behind its guard. -/
structure Worker where
  name : String
  body : WorkerBody
  /-- Whether the guard has stopped it. -/
  stopped : Bool := false
  deriving DecidableEq, Repr

namespace Worker

/-- Whether the body has ended. -/
def isFinished (w : Worker) : Bool :=
  match w.body with
  | .untilStopped => w.stopped
  | .returns | .panics => true

/-- Stops the worker and waits for its end. -/
def stop (w : Worker) : Worker :=
  { w with stopped := true }

/-- The words that the body says by its end. -/
def said (w : Worker) : List String :=
  match w.body with
  | .untilStopped => if w.stopped then ["stopped"] else []
  | .returns => ["returned"]
  | .panics => []

end Worker

end SchedPlane
