/-
SchedPlane/Stream/Line.lean

A line: a dispatch stream together with the blocking sends that wait on it.  Its threads
are the flush thread, one thread for each send, and the one that closes the stream;
`Line.step` is the next step of one of them, so a run of the stream is a list of such
steps in any order.  On a kernel the flush thread gets its answers from the ring
(`Line.advance`), and `Line.settle` lets all threads run until none can do anything
more.
-/
import SchedPlane.Stream.Dispatch

namespace SchedPlane

/-- A dispatch stream and the blocking sends on it. -/
structure Line where
  stream : DispatchStream
  senders : List DispatchStream.Sender := []
  deriving DecidableEq, Repr

namespace Line

/-! ### Steps -/

/-- A step of one of the threads. -/
inductive Action where
  /-- The flush thread, and what the ring answers if it submits a decision. -/
  | flush (answer : Kernel.SubmitAnswer)
  /-- The blocking send of a number. -/
  | send (n : Nat)
  | close
  deriving DecidableEq, Repr

/-- The line after a blocking send has taken its next step. -/
def sendStep (l : Line) (n : Nat) : Line :=
  match l.senders[n]? with
  | none => l
  | some p =>
    let (stream, p') := l.stream.sendStep p
    { stream, senders := l.senders.set n p' }

/-- The line after a step. -/
def step (l : Line) : Action → Line
  | .flush answer => { l with stream := l.stream.flushStep answer }
  | .send n => l.sendStep n
  | .close => { l with stream := l.stream.closeStep }

/-! ### On a kernel -/

/-- A thread of a line. -/
inductive Actor where
  | flush
  | send (n : Nat)
  deriving DecidableEq, Repr

/-- The line after the next step of a thread, on a kernel. -/
def advance (k : Kernel) (l : Line) : Actor → Kernel × Line
  | .flush => let (k', stream) := l.stream.advance k; (k', { l with stream })
  | .send n => (k, l.sendStep n)

/-- Whether a thread can do nothing more by itself. -/
def resting (k : Kernel) (l : Line) : Actor → Bool
  | .flush => l.stream.restsOn k
  | .send n => ((l.senders[n]?).map l.stream.senderAtRest).getD true

/-- The threads of a line in the order in which a round lets them step. -/
def actors (l : Line) : List Actor :=
  .flush :: (List.range l.senders.length).map .send

/-- A thread takes a step, unless it can do nothing. -/
def turn (p : Kernel × Line) (a : Actor) : Kernel × Line :=
  if p.2.resting p.1 a then p else p.2.advance p.1 a

/-- Every thread takes a step. -/
def round (p : Kernel × Line) : Kernel × Line :=
  p.2.actors.foldl turn p

/-- Whether no thread can do anything more. -/
def atRest (p : Kernel × Line) : Bool :=
  p.2.actors.all (p.2.resting p.1)

/-- Enough rounds for the line to come to rest. -/
def bound (l : Line) : Nat :=
  6 * (l.stream.queue.length + l.senders.length) + 24

/-- Lets all threads run until none can do anything more. -/
def settle (k : Kernel) (l : Line) : Kernel × Line :=
  untilRest atRest round l.bound (k, l)

/-- A round while the stream is being closed. -/
def closingRound (p : Kernel × Line) : Kernel × Line :=
  round (p.1, p.2.step .close)

/-- Closes the stream: runs until the flush thread has ended and every send has returned. -/
def close (k : Kernel) (l : Line) : Kernel × Line :=
  untilRest (fun p => p.2.stream.isClosed && atRest p) closingRound (l.bound + 12) (k, l)

end Line

end SchedPlane
