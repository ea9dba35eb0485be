import PaymentDesk.CommandLine.Fault

/-!
# The help

Every option and flag has a line: its name, and in a second column what it is about, the variable that can stand in for
it with the value it has, the default and the possible values. These lines are as long as they need to be. Names stand
out on a terminal; elsewhere the help is plain.
-/

namespace PaymentDesk.CommandLine

open Text

/-- A line of the help: what stands in front of a name, the name, what stands after it, and the text of the second
column. -/
structure HelpLine where
  lead : List Char
  name : List Char
  value : List Char
  text : List Char

namespace HelpLine

/-- The width of the first column. -/
def width (l : HelpLine) : Nat := l.lead.length + l.name.length + l.value.length

/-- A line whose second column starts at some place; a line end in that column is followed by as many blanks. -/
def render (column : Nat) (l : HelpLine) : List Char :=
  l.lead ++ Terminal.bold l.name ++ l.value ++ List.replicate (column - l.width) ' ' ++
    l.text.flatMap (fun c => if c = '\n' then '\n' :: List.replicate column ' ' else [c]) ++ ['\n']

end HelpLine

/-- What the help says about the value of an option. -/
def valueNotes (e : Environment) (o : Opt) : List (List Char) :=
  (match o.environmentName? with
    | some v => ["[env: ".toList ++ v ++ '=' :: (e.get? v).getD [] ++ [']']]
    | none => []) ++
  (match o.default? with
    | some d => ["[default: ".toList ++ d ++ [']']]
    | none => []) ++
  (if o.choices.isEmpty then [] else [choicesText o])

/-- The line about an option. -/
def optionHelp (e : Environment) (o : Opt) : HelpLine where
  lead := "      ".toList
  name := "--".toList ++ o.name
  value := " <".toList ++ o.placeholder ++ ['>']
  text := [' '].intercalate (o.about :: valueNotes e o)

/-- The line about a flag. -/
def flagHelp (f : Flag) : HelpLine where
  lead := "  -".toList ++ [f.letter, ',', ' ']
  name := "--".toList ++ f.name
  value := []
  text := f.about

/-- The lines of the help. -/
def helpLines (e : Environment) : List HelpLine := Opt.all.map (optionHelp e) ++ Flag.all.map flagHelp

/-- The help. -/
def help (e : Environment) : List Char :=
  let column := ((helpLines e).map HelpLine.width).foldl max 0 + 2
  Terminal.plain (usageLine [] ++ "\n\nOptions:\n".toList ++ (helpLines e).flatMap (HelpLine.render column))

end PaymentDesk.CommandLine
