import BlockProgram.Block.Type

/-! # Command names

The workspace runner sends block types under their own names (`clockwise(…)`); the gamepad
firmware expects `turnright` and friends. A `Naming` is a table of overrides on top of the
types' own names: the scheme's entries first, then any renames, the latest entry for a type
winning.
-/

namespace BlockProgram

/-- The built-in naming conventions. -/
inductive NamingScheme where
  /-- Every type under its own name. -/
  | workspace
  /-- Turns and lamps renamed: `turnright`, `turnleft`, `lampon`, `lampoff`. -/
  | gamepad
  deriving DecidableEq, Repr, Inhabited

namespace NamingScheme

/-- The scheme with a given name; the names are exact and case-sensitive. -/
def parse (s : String) : Except String NamingScheme :=
  match s with
  | "workspace" => .ok .workspace
  | "gamepad" => .ok .gamepad
  | _ => .error s!"unknown naming scheme '{s}'"

/-- The name of a scheme. -/
def name : NamingScheme → String
  | .workspace => "workspace"
  | .gamepad => "gamepad"

end NamingScheme

/-- A table of command names: overrides, latest first, on top of the types' own names. -/
structure Naming where
  /-- The overrides, the most recent first. -/
  overrides : List (BlockType × String) := []
  deriving Inhabited

namespace Naming

/-- Every type under its own name. -/
def workspace : Naming := {}

/-- Overrides the name of one type. -/
def rename (n : Naming) (t : BlockType) (name : String) : Naming :=
  ⟨(t, name) :: n.overrides⟩

/-- The gamepad names for turns and lamps. -/
def gamepad : Naming :=
  ((((workspace.rename .clockwise "turnright").rename .countClockwise "turnleft").rename .lampOn
    "lampon").rename .lampOff "lampoff")

/-- The table of a scheme. -/
def ofScheme : NamingScheme → Naming
  | .workspace => workspace
  | .gamepad => gamepad

/-- The name a command of type `t` is sent under: the latest override, or the type's own
name. -/
def nameFor (n : Naming) (t : BlockType) : String :=
  match n.overrides.find? (·.1 == t) with
  | some (_, name) => name
  | none => t.name

end Naming

end BlockProgram
