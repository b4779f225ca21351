import BlockProgram.Block.Type

/-! # Blocks

A block is one unit of a visual program: an id, a type, an optional numeric value (only
delays use it), a position on the canvas, and links to the block before it (`parent`) and
after it (`child`), both by id. A block without a parent starts a chain.
-/

namespace BlockProgram

/-- The least value the editor sets on a delay. -/
def delayMin : UInt32 := 1

/-- The greatest value the editor sets on a delay. -/
def delayMax : UInt32 := 10

/-- One block of a snapshot. -/
structure Block where
  /-- The block's id. -/
  id : String
  /-- The block's type. -/
  type : BlockType
  /-- The numeric value, if any. -/
  value : Option UInt32 := none
  /-- The horizontal canvas position. -/
  x : Float := 0
  /-- The vertical canvas position. -/
  y : Float := 0
  /-- The id of the block before this one. -/
  parent : Option String := none
  /-- The id of the block after this one. -/
  child : Option String := none
  deriving Inhabited

namespace Block

/-- An unlinked block at the origin. -/
def make (id : String) (type : BlockType) : Block := { id, type }

/-- An unlinked delay block with a value. -/
def delayOf (id : String) (value : UInt32) : Block := { id, type := .delay, value := some value }

/-- The block with a value set. -/
def withValue (b : Block) (v : UInt32) : Block := { b with value := some v }

/-- The block with a parent link set. -/
def withParent (b : Block) (p : String) : Block := { b with parent := some p }

/-- The block with a child link set. -/
def withChild (b : Block) (c : String) : Block := { b with child := some c }

/-- The block moved to a canvas position. -/
def moveTo (b : Block) (x y : Float) : Block := { b with x, y }

/-- The delay units a block stands for: its value, or one when it has none. -/
def delayUnits (b : Block) : UInt32 := b.value.getD 1

/-- Whether the block starts a chain: it has no parent. -/
def isHead (b : Block) : Bool := b.parent.isNone

/-- Field-by-field equality; positions compare as doubles. -/
def same (a b : Block) : Bool :=
  a.id == b.id && a.type == b.type && a.value == b.value && a.x == b.x && a.y == b.y &&
    a.parent == b.parent && a.child == b.child

end Block

end BlockProgram
