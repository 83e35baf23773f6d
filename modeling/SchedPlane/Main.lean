/-
SchedPlane/Main.lean

The program: it takes its environment and arguments from the system, writes the log to
standard output, and takes a line of its input, or the end of it, for the interrupt.  The
system offers it no request to lock memory.
-/
import SchedPlane.CommandLine

namespace SchedPlane.CommandLine

/-- The variables that the program looks at. -/
def watched : List String :=
  [envFilter, Contract.envTraceJson, Contract.envObjectPath, Contract.envModuleName,
    Contract.envMemlock]

/-- The values of the watched variables. -/
def readEnvironment : IO (List (String × String)) :=
  watched.filterMapM fun name => do
    return (← IO.getEnv name).map fun value => (name, value)

end SchedPlane.CommandLine

open SchedPlane SchedPlane.CommandLine

def main (args : List String) : IO UInt32 := do
  let environment ← readEnvironment
  let lookup : String → Option String := fun name => environment.lookup name
  let logging := Logging.ofLookup lookup
  let result := CommandLine.run lookup args (some .unsupported)
  for line in result.log do
    if line = interrupted then
      let _ ← (← IO.getStdin).getLine
    if logging.filter.allows line then
      IO.println (renderLine line logging.json result.stats)
  IO.eprint result.stderr
  return UInt32.ofNat result.exit
