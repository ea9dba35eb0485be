import PaymentDesk.Config
import PaymentDesk.Menu

/-!
# Options of the command line

Four options take a value; three of them can also be given by a variable of the environment, and three have a default.
Two flags ask for help and for the version.
-/

namespace PaymentDesk.CommandLine

/-- The name under which the program is called. -/
def programName : List Char := "payments-console".toList

/-- The version of the program. -/
def version : List Char := "0.1.0".toList

/-- The variables of the environment. -/
abbrev Environment := List (List Char × List Char)

/-- The value of a variable. -/
def Environment.get? (e : Environment) (name : List Char) : Option (List Char) :=
  (e.find? (·.1 == name)).map (·.2)

/-- An option with a value. -/
inductive Opt where
  | baseUrl
  | serviceId
  | variant
  | timeout
  deriving DecidableEq, Repr

namespace Opt

/-- All options, in the order in which they are declared. -/
def all : List Opt := [.baseUrl, .serviceId, .variant, .timeout]

/-- The name of an option. -/
def name : Opt → List Char
  | .baseUrl => "base-url".toList
  | .serviceId => "service-id".toList
  | .variant => "variant".toList
  | .timeout => "timeout-secs".toList

/-- What stands for the value in texts about an option. -/
def placeholder : Opt → List Char
  | .baseUrl => "BASE_URL".toList
  | .serviceId => "SERVICE_ID".toList
  | .variant => "VARIANT".toList
  | .timeout => "TIMEOUT_SECS".toList

/-- An option as it is written on the command line. -/
def usage (o : Opt) : List Char := "--".toList ++ o.name ++ " <".toList ++ o.placeholder ++ ['>']

/-- The variable that can stand in for an option. -/
def environmentName? : Opt → Option (List Char)
  | .baseUrl => some "PAYMENTS_BASE_URL".toList
  | .serviceId => some "PAYMENTS_SERVICE_ID".toList
  | .variant => some "PAYMENTS_API_VARIANT".toList
  | .timeout => none

/-- The value of an option that is not given. -/
def default? : Opt → Option (List Char)
  | .baseUrl => some (Config.baseUrl {})
  | .serviceId => some (Config.serviceId {})
  | .variant => some Variant.current.name
  | .timeout => none

/-- The values that an option can have, if they are few. -/
def choices : Opt → List (List Char)
  | .variant => Variant.all.map Variant.name
  | _ => []

/-- What an option is about. -/
def about : Opt → List Char
  | .baseUrl => "Base URL of the payments endpoint. Request paths are appended to it as-is".toList
  | .serviceId => "Value sent in the `service_id` header".toList
  | .variant => "Menu layout and payload shape".toList
  | .timeout => "Request timeout in seconds. No timeout when omitted".toList

/-- The option with a name. -/
def ofName? (s : List Char) : Option Opt := all.find? (·.name == s)

end Opt

/-- A flag. -/
inductive Flag where
  | help
  | version
  deriving DecidableEq, Repr

namespace Flag

/-- All flags, in the order in which they are declared. -/
def all : List Flag := [.help, .version]

/-- The name of a flag. -/
def name : Flag → List Char
  | .help => "help".toList
  | .version => "version".toList

/-- The letter of a flag. -/
def letter : Flag → Char
  | .help => 'h'
  | .version => 'V'

/-- What a flag is about. -/
def about : Flag → List Char
  | .help => "Print help".toList
  | .version => "Print version".toList

/-- The flag with a name. -/
def ofName? (s : List Char) : Option Flag := all.find? (·.name == s)

/-- The flag with a letter. -/
def ofLetter? (c : Char) : Option Flag := all.find? (·.letter == c)

end Flag

/-- What the command line asks for; the time limit is in seconds. -/
structure Settings where
  baseUrl : List Char
  serviceId : List Char
  variant : Variant
  timeout : Option Nat
  deriving DecidableEq, Repr

end PaymentDesk.CommandLine
