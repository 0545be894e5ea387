import TupleStore.CommandLine.Execution
import TupleStore.Network.Tcp

/-!
# The program

Runs the command of its command line on a database in the network.  The lines of
the result go to the standard output; an error goes to the standard error.
-/

namespace TupleStore.CommandLine

def environment : IO (List (String × String)) := do
  let names := connectionFlags.filterMap Flag.environment
  names.filterMapM fun name => do return (← IO.getEnv name).map fun value => (name, value)

def usageText : String :=
  "usage: tdata ping | spaces | select SPACE | call FUNCTION [ARGS]... | " ++
    "eval EXPRESSION [ARGS]... | truncate SPACE | cache get CACHE KEY | " ++
    "cache put CACHE KEY VALUE | cache evict CACHE KEY | cache clear CACHE"

def runInvocation (invocation : Invocation) : IO UInt32 := do
  let streams ← IO.mkRef #[]
  match ← execute (Network.Tcp.transport streams) invocation with
  | .ok lines =>
      lines.forM IO.println
      return 0
  | .error error =>
      IO.eprintln ("Error: " ++ error.display)
      return 1

end TupleStore.CommandLine

open TupleStore.CommandLine in
def main (arguments : List String) : IO UInt32 := do
  match parse (← environment) arguments with
  | .ok invocation => runInvocation invocation
  | .error .helpWanted =>
      IO.println usageText
      return 0
  | .error _ =>
      IO.eprintln usageText
      return 2
