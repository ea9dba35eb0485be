/-!
# Log records

A record has a level, the part of the program that wrote it, and a text. Two parts belong to the HTTP client, which
writes records of its own about connections.
-/

namespace PaymentDesk.Log

/-- How important a record is. -/
inductive Level where
  | trace
  | debug
  | info
  | warn
  | error
  deriving DecidableEq, Repr

namespace Level

/-- The name of a level. -/
def name : Level → List Char
  | .trace => "TRACE".toList
  | .debug => "DEBUG".toList
  | .info => "INFO".toList
  | .warn => "WARN".toList
  | .error => "ERROR".toList

/-- The rank of a level, the most important one having the greatest. -/
def rank : Level → Nat
  | .trace => 1
  | .debug => 2
  | .info => 3
  | .warn => 4
  | .error => 5

end Level

/-- A part of the program that writes records. -/
inductive Source where
  | program
  | operations
  | wire
  | session
  | connection
  | repetition
  deriving DecidableEq, Repr

/-- The name under which a part writes its records. -/
def Source.path : Source → List Char
  | .program => "payments_console".toList
  | .operations => "payments_console::application::dispatcher".toList
  | .wire => "payments_console::infrastructure::http".toList
  | .session => "payments_console::interfaces::console::session".toList
  | .connection => "reqwest::connect".toList
  | .repetition => "reqwest::retry".toList

/-- A part of the HTTP client. -/
def Source.isClient : Source → Bool
  | .connection | .repetition => true
  | .program | .operations | .wire | .session => false

/-- One record. -/
structure Record where
  level : Level
  source : Source
  text : List Char
  deriving DecidableEq, Repr

end PaymentDesk.Log
