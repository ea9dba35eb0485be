import PaymentDesk.CommandLine.Arguments
import PaymentDesk.CommandLine.Help
import PaymentDesk.CommandLine.LogFilter
import PaymentDesk.Session
import PaymentDesk.Text.LineBreak.Dictionary
import PaymentDesk.Text.Wrap
import PaymentDesk.Wire.Exchange

/-!
# The program

`Program.run` is the whole program: it reads the arguments and the environment, checks the settings, and holds a session
over the standard input and the network. A program that cannot start says why, and so does one whose session fails.
-/

namespace PaymentDesk.Program

open Text CommandLine

/-- What the program is given. -/
structure Start where
  arguments : List (List Char)
  environment : Environment
  input : List UInt8
  reaches : Url → Bool
  network : Network
  clock : Nat → Int

/-- What the program leaves behind. -/
structure Outcome where
  code : Nat
  output : List UInt8
  errors : List Char
  network : Network

/-- What an error was caused by, if it says so. -/
def cause? : Error → Option (List Char)
  | .transport r | .json r | .io r => some r
  | .status _ _ | .input _ | .config _ => none

/-- A part of a report in lines, with what is complained about while the lines are filled in front. -/
def paragraph (first others s : List Char) : List Char :=
  Dictionary.complaints s ++ wrap 78 first others s ++ ['\n']

/-- The report of an error that ends the program. -/
def report (e : Error) : List Char :=
  "Error: ".toList ++ paragraph "  × ".toList "  │ ".toList e.message ++
    (match cause? e with
      | some c => paragraph "  ╰─▶ ".toList "      ".toList c
      | none => []) ++ ['\n']

/-- The record with which a session begins. -/
def greeting (c : Config) : Log.Record :=
  ⟨.info, .program, "sending to ".toList ++ c.baseUrl ++ " as service '".toList ++ c.serviceId ++ ['\'']⟩

/-- The variable that holds the log filter. -/
def logVariable : List Char := "RUST_LOG".toList

/-- Holds a session under checked settings. -/
def serve (s : Start) (v : Variant) (c : Config) : Except Error Unit × World Network :=
  Session.run ⟨Wire.transport ⟨c, s.reaches⟩, s.clock⟩ v
    { input := byteLines s.input, log := [greeting c], transport := s.network }

/-- Runs the program. -/
def run (s : Start) : Outcome :=
  let filter := s.environment.get? logVariable
  let warnings := logText filter []
  match settings s.arguments s.environment with
  | .error .help => ⟨0, Utf8.encode (help s.environment), warnings, s.network⟩
  | .error .version => ⟨0, Utf8.encode (programName ++ ' ' :: version ++ ['\n']), warnings, s.network⟩
  | .error (.fault f) => ⟨2, [], warnings ++ f.message, s.network⟩
  | .ok o =>
    match Config.make o.baseUrl o.serviceId (o.timeout.map (· * 1000)) with
    | .error f => ⟨1, [], warnings ++ report f.error, s.network⟩
    | .ok c =>
      let (result, w) := serve s o.variant c
      let log := logText filter w.log
      match result with
      | .ok () => ⟨0, w.sink.stored, log, w.transport⟩
      | .error e => ⟨1, w.sink.stored, log ++ report e, w.transport⟩

end PaymentDesk.Program
