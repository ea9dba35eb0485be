import PaymentDesk.Program
import Std.Time.DateTime.Timestamp

/-!
# The command

Reads the arguments, the environment and the whole standard input, runs the program, and writes what it leaves behind.
No address reaches a server from here: every request ends as a connection that could not be made.
-/

namespace PaymentDesk

/-- The variables that the program looks at, with their values. -/
def readEnvironment : IO CommandLine.Environment := do
  let names := Program.logVariable :: CommandLine.Opt.all.filterMap CommandLine.Opt.environmentName?
  let found ← names.mapM fun name => return (name, ← IO.getEnv (String.ofList name))
  return found.filterMap fun p => p.2.map fun value => (p.1, value.toList)

/-- Reads the standard input to its end. -/
partial def readAll (stream : IO.FS.Stream) (acc : ByteArray) : IO ByteArray := do
  let chunk ← stream.read 65536
  if chunk.isEmpty then return acc else readAll stream (acc ++ chunk)

/-- Runs the program once; the clock stands still meanwhile. -/
def start (arguments : List String) : IO UInt32 := do
  let environment ← readEnvironment
  let input ← readAll (← IO.getStdin) ByteArray.empty
  let now ← Std.Time.Timestamp.now
  let outcome := Program.run
    { arguments := arguments.map String.toList, environment, input := input.toList, reaches := fun _ => false,
      network := {}, clock := fun _ => now.toSecondsSinceUnixEpoch.val }
  (← IO.getStdout).write (ByteArray.mk outcome.output.toArray)
  (← IO.getStderr).putStr (String.ofList outcome.errors)
  return UInt32.ofNat outcome.code

end PaymentDesk

/-- The entry of the program. -/
def main (arguments : List String) : IO UInt32 := PaymentDesk.start arguments
