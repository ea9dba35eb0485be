import PaymentDesk.CommandLine.Options
import PaymentDesk.Text.Similarity
import PaymentDesk.Text.Terminal

/-!
# Faults of the command line

What can be wrong with the arguments, and how the program complains. A complaint ends with a hint at the help; where the
fault is about the arguments as such it shows the usage, and where a value or a name was nearly right it says so. What
was given is repeated without the commands for a terminal that it may hold.
-/

namespace PaymentDesk.CommandLine

open Text Terminal

/-- What is wrong with the arguments. -/
inductive Fault where
  /-- An option needs a value and has none. -/
  | missingValue (o : Opt)
  /-- The value is not one of a few. -/
  | unknownValue (o : Opt) (value : List Char)
  /-- The value is no number. -/
  | noNumber (o : Opt) (value : List Char) (fault : Decimal.Fault)
  /-- An option stands more than once. -/
  | repeated (o : Opt)
  /-- An argument is not known at all. -/
  | unexpected (argument : List Char)
  /-- An option is not known; `given` lists the options before it. -/
  | unknownOption (name : List Char) (given : List Opt)
  /-- A flag has a value; `mixed` says that options stand before it. -/
  | unneededValue (flag : Flag) (value : List Char) (mixed : Bool)
  deriving DecidableEq, Repr

/-- The first line of the help: the options that were given, or the place of all. -/
def usageLine (given : List (List Char)) : List Char :=
  "Usage: ".toList ++ programName ++
    if given.isEmpty then " [OPTIONS]".toList else given.flatMap (' ' :: ·)

/-- The values that an option can have. -/
def choicesText (o : Opt) : List Char :=
  "[possible values: ".toList ++ ", ".toList.intercalate o.choices ++ [']']

/-- The line that lists the values of an option, if they are few. -/
def choicesLine (o : Opt) : List Char :=
  if o.choices.isEmpty then [] else "  ".toList ++ choicesText o ++ ['\n']

/-- All names that can stand behind two hyphens. -/
def allNames : List (List Char) := Opt.all.map Opt.name ++ Flag.all.map Flag.name

/-- A name as the usage shows it. -/
def nameUsage (s : List Char) : List Char :=
  match Opt.ofName? s with
  | some o => o.usage
  | none => "--".toList ++ s

/-- All options as the usage shows a choice of them. -/
def choiceUsage : List Char := '<' :: ['|'].intercalate (Opt.all.map Opt.usage) ++ ['>']

/-- A list with an element at its end, unless it is there already. -/
def withLast (l : List (List Char)) (x : List Char) : List (List Char) := if l.contains x then l else l ++ [x]

/-- The complaint, without what all complaints have in common. -/
def Fault.body : Fault → List Char
  | missingValue o =>
    "a value is required for '".toList ++ o.usage ++ "' but none was supplied\n".toList ++ choicesLine o
  | unknownValue o value =>
    "invalid value '".toList ++ plain value ++ "' for '".toList ++ o.usage ++ "'\n".toList ++ choicesLine o ++
      (match mostSimilar? value o.choices with
        | some c => "\n  tip: a similar value exists: '".toList ++ c ++ "'\n".toList
        | none => [])
  | noNumber o value fault =>
    "invalid value '".toList ++ plain value ++ "' for '".toList ++ o.usage ++ "': ".toList ++ fault.message ++ ['\n']
  | repeated o =>
    "the argument '".toList ++ o.usage ++ "' cannot be used multiple times\n\n".toList ++ usageLine [] ++ ['\n']
  | unexpected argument =>
    "unexpected argument '".toList ++ plain argument ++ "' found\n\n".toList ++ usageLine [] ++ ['\n']
  | unknownOption name given =>
    "unexpected argument '--".toList ++ plain name ++ "' found\n\n".toList ++
      (match mostSimilar? name allNames with
        | some c =>
          "  tip: a similar argument exists: '--".toList ++ c ++ "'\n\n".toList ++
            usageLine (withLast (given.map Opt.usage) (nameUsage c))
        | none => usageLine (given.map Opt.usage)) ++ ['\n']
  | unneededValue flag value mixed =>
    "unexpected value '".toList ++ plain value ++ "' for '--".toList ++ flag.name ++
      "' found; no more were expected\n\n".toList ++
      usageLine (("--".toList ++ flag.name) :: if mixed then [choiceUsage] else []) ++ ['\n']

/-- The complaint about a fault. -/
def Fault.message (f : Fault) : List Char :=
  "error: ".toList ++ f.body ++ "\nFor more information, try '--help'.\n".toList

end PaymentDesk.CommandLine
