import PaymentDesk.Text.Digits

/-!
# Errors

Everything that can go wrong at the desk, by origin, and its wording (`Error.message`).
-/

namespace PaymentDesk

open Text

/-- A failure, by its origin. -/
inductive Error where
  /-- A request could not be sent, or its reply not be received. -/
  | transport (reason : List Char)
  /-- The service answered with a status that is no success. -/
  | status (code : Nat) (body : List Char)
  /-- A document could not be read, or not be written out. -/
  | json (reason : List Char)
  /-- The terminal could not be read or written. -/
  | io (reason : List Char)
  /-- The operator entered something that cannot be used. -/
  | input (reason : List Char)
  /-- The settings are not usable. -/
  | config (reason : List Char)
  deriving DecidableEq, Repr

/-- The wording of an error. -/
def Error.message : Error → List Char
  | .transport r => "Transport error: ".toList ++ r
  | .status code body =>
    "Service returned HTTP ".toList ++ Decimal.ofNat code ++ if body.isEmpty then [] else ": ".toList ++ body
  | .json r => "JSON error: ".toList ++ r
  | .io r => "IO error: ".toList ++ r
  | .input r => "Invalid input: ".toList ++ r
  | .config r => "Configuration error: ".toList ++ r

end PaymentDesk
