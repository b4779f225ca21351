/-! # Block types

A block's type is one of the thirteen kinds on the palette, or any other name, which is
kept as it is so that snapshots from newer editors still load. `BlockType.ofName` and
`BlockType.name` convert between names and types: a name reads back as itself, and
known names never become `other`.
-/

namespace BlockProgram

/-- The kind of a block. -/
inductive BlockType where
  /-- Starts a program. -/
  | greenFlag
  /-- Moves up. -/
  | up
  /-- Moves down. -/
  | down
  /-- Waits; its value counts the units. -/
  | delay
  /-- Drives forward. -/
  | forward
  /-- Drives backward. -/
  | backward
  /-- Turns clockwise. -/
  | clockwise
  /-- Turns counterclockwise. -/
  | countClockwise
  /-- Switches the lamp on. -/
  | lampOn
  /-- Switches the lamp off. -/
  | lampOff
  /-- Sets the low speed. -/
  | speedLow
  /-- Sets the high speed. -/
  | speedHigh
  /-- Shoots. -/
  | shoot
  /-- A type outside the palette, by its name. -/
  | other (name : String)
  deriving DecidableEq, Repr, Inhabited

namespace BlockType

/-- The thirteen palette types, in palette order. -/
def known : List BlockType :=
  [greenFlag, up, down, delay, forward, backward, clockwise, countClockwise, lampOn, lampOff,
    speedLow, speedHigh, shoot]

/-- The name of a type, as snapshots store it. -/
def name : BlockType → String
  | greenFlag => "green-flag"
  | up => "up"
  | down => "down"
  | delay => "delay"
  | forward => "forward"
  | backward => "backward"
  | clockwise => "clockwise"
  | countClockwise => "countclockwise"
  | lampOn => "lamp-on"
  | lampOff => "lamp-off"
  | speedLow => "speed-low"
  | speedHigh => "speed-high"
  | shoot => "shoot"
  | other n => n

/-- The type with a given name: a palette type when the name is one of theirs, and
`other` otherwise. -/
def ofName (s : String) : BlockType :=
  (known.find? (·.name == s)).getD (other s)

/-- The position of a type on the palette, or `none` for a type outside it. -/
def paletteIndex (t : BlockType) : Option Nat := known.idxOf? t

/-- Whether a block of this type absorbs the delays that directly follow it: the moving,
turning and lamp types do. -/
def consumesDelay : BlockType → Bool
  | up | down | forward | backward | clockwise | countClockwise | lampOn | lampOff => true
  | _ => false

/-- The percentage a speed block sets: 50 for the low speed, 100 for the high one. -/
def fixedSpeed : BlockType → Option Nat
  | speedLow => some 50
  | speedHigh => some 100
  | _ => none

/-- Whether the type is one of the two speed types. -/
def isSpeed (t : BlockType) : Bool := t.fixedSpeed.isSome

/-- Whether the type is `delay`. -/
def isDelay : BlockType → Bool
  | delay => true
  | _ => false

end BlockType

end BlockProgram
