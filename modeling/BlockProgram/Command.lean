/-! # Device commands

The device reads one line of function-call style commands joined by `_`, such as
`up(3)_delay(2)_down(1)`. A command is a name with no parentheses, empty parentheses,
or one rendered argument.
-/

namespace BlockProgram

/-- The argument part of a command. -/
inductive Argument where
  /-- No parentheses: `stop`. -/
  | bare
  /-- Empty parentheses: `shoot()`. -/
  | empty
  /-- One rendered argument: `up(3)`. -/
  | value (text : String)
  deriving DecidableEq, Repr

/-- One device command. -/
structure Command where
  /-- The function name. -/
  name : String
  /-- The argument part. -/
  arg : Argument
  deriving DecidableEq, Repr

namespace Command

/-- A command with one argument. -/
def call (name text : String) : Command := ⟨name, .value text⟩

/-- The immediate stop, sent outside any program. -/
def stop : Command := ⟨"stop", .empty⟩

/-- The text of a command. -/
def render (c : Command) : String :=
  match c.arg with
  | .bare => c.name
  | .empty => c.name ++ "()"
  | .value v => c.name ++ "(" ++ v ++ ")"

end Command

/-- The separator between commands on a line. -/
def commandSeparator : String := "_"

/-- A line of commands as the device reads it. -/
def renderLine (cs : List Command) : String :=
  commandSeparator.intercalate (cs.map Command.render)

end BlockProgram
