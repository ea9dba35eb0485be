import PaymentDesk.CommandLine.Fault

/-!
# Reading the command line

The arguments are read from left to right. An option has its value behind `=` or in the next argument, unless that one
starts with a hyphen; it counts only when the argument after it is reached, so that the first fault from the left is the
one that is reported (`read`). A value from the command line goes before one from the environment, and that one before
the default (`settings`).
-/

namespace PaymentDesk.CommandLine

open Text

/-- Why the program ends before it has begun. -/
inductive Stop where
  | help
  | version
  | fault (f : Fault)
  deriving DecidableEq, Repr

/-- Options with their values, in the order in which they were given. -/
abbrev Given := List (Opt × List Char)

/-- Checks the value of an option. -/
def check (o : Opt) (value : List Char) : Except Fault Unit :=
  match o with
  | .variant =>
    if (Variant.ofName? true value).isSome then .ok ()
    else if value.isEmpty then .error (.missingValue o)
    else .error (.unknownValue o value)
  | .timeout =>
    match Decimal.read (Nat.pow 2 64) value with
    | .ok _ => .ok ()
    | .error f => .error (.noNumber o value f)
  | _ => .ok ()

/-- Adds an option with its value. -/
def Given.add (given : Given) (o : Opt) (value : List Char) : Except Fault Given :=
  if given.any (·.1 == o) then .error (.repeated o)
  else (check o value).map fun _ => given ++ [(o, value)]

/-- An option that waits for what follows it. -/
inductive Pending where
  | nothing
  | option (o : Opt)
  | valued (o : Opt) (value : List Char)
  deriving DecidableEq, Repr

/-- Adds the option that was waiting. -/
def Given.settle (given : Given) : Pending → Except Fault Given
  | .nothing => .ok given
  | .option o => .error (.missingValue o)
  | .valued o value => given.add o value

/-- The options that a complaint about what follows shows. One that was waiting with a value is among them, right or
wrong, but an option given twice is not. -/
def Given.names (given : Given) : Pending → List Opt
  | .valued o _ => if given.any (·.1 == o) then (given.map (·.1)).filter (· != o) else given.map (·.1) ++ [o]
  | _ => given.map (·.1)

/-- The name and the value of an argument that starts with two hyphens. -/
def splitValue (s : List Char) : List Char × Option (List Char) :=
  (s.takeWhile (· != '='), match s.dropWhile (· != '=') with | [] => none | _ :: v => some v)

/-- A fault ends the program. -/
def orStop {α : Type} (x : Except Fault α) : Except Stop α := x.mapError .fault

/-- The end that a flag asks for. -/
def Flag.stop : Flag → Stop
  | .help => .help
  | .version => .version

/-- Reads the arguments. -/
def read (given : Given) (p : Pending) : List (List Char) → Except Stop Given
  | [] => orStop (given.settle p)
  | ['-', '-'] :: rest =>
    match rest with
    | [] => orStop (given.settle p)
    | a :: _ => .error (.fault (.unexpected a))
  | ('-' :: '-' :: body) :: rest =>
    let (name, value) := splitValue body
    match Opt.ofName? name, Flag.ofName? name, value with
    | some o, _, none => do
      let given ← orStop (given.settle p)
      read given (.option o) rest
    | some o, _, some v => do
      let given ← orStop (given.settle p)
      let given ← orStop (given.add o v)
      read given .nothing rest
    | none, some f, none => do
      let _ ← orStop (given.settle p)
      .error f.stop
    | none, some f, some v => .error (.fault (.unneededValue f v (! given.isEmpty)))
    | none, none, _ => .error (.fault (.unknownOption name (given.names p)))
  | ('-' :: c :: _) :: _ =>
    match Flag.ofLetter? c with
    | some f => do
      let _ ← orStop (given.settle p)
      .error f.stop
    | none => .error (.fault (.unexpected ['-', c]))
  | a :: rest =>
    match p with
    | .option o => read given (.valued o a) rest
    | _ => .error (.fault (.unexpected a))

/-- Adds the options that the environment gives. -/
def addEnvironment (e : Environment) (given : Given) : List Opt → Except Fault Given
  | [] => .ok given
  | o :: r =>
    match given.any (·.1 == o), o.environmentName?.bind e.get? with
    | false, some v => do
      let given ← given.add o v
      addEnvironment e given r
    | _, _ => addEnvironment e given r

/-- The value of an option: as given, or the default. -/
def Given.value? (given : Given) (o : Opt) : Option (List Char) :=
  ((given.find? (·.1 == o)).map (·.2)).or o.default?

/-- What the arguments and the environment ask for. -/
def settings (arguments : List (List Char)) (e : Environment) : Except Stop Settings := do
  let given ← read [] .nothing arguments
  let given ← orStop (addEnvironment e given Opt.all)
  .ok {
    baseUrl := (given.value? .baseUrl).getD []
    serviceId := (given.value? .serviceId).getD []
    variant := ((given.value? .variant).bind (Variant.ofName? true)).getD .current
    timeout := (given.value? .timeout).bind fun s => (Decimal.read (Nat.pow 2 64) s).toOption }

end PaymentDesk.CommandLine
