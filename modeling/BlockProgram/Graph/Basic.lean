import Std.Data.HashMap
import BlockProgram.Block.Json
import BlockProgram.Chain
import BlockProgram.Error

/-! # Block graphs

A `Graph` is the snapshot a workspace edits: its blocks in canvas order, and an index
from each id to the position of its block. Every lookup goes through the index. Edits
(`Graph.Edit`) change the graph in place and may fail; a failing edit leaves the graph as
far as it got, so an edit that fails after changing something would show that change.
Inserting refuses an id the index already has, so ids stay unique.
-/

namespace BlockProgram

/-- An editable snapshot: blocks in canvas order, indexed by id. -/
structure Graph where
  /-- The blocks in canvas order. -/
  blocks : List Block
  /-- The position of each id's block. -/
  index : Std.HashMap String Nat
  deriving Inhabited

namespace Graph

/-- The graph with no blocks. -/
def empty : Graph := ⟨[], ∅⟩

/-- The index of a block list built afresh: each id to the position of its block, the
last one when an id repeats. -/
def reindex (blocks : List Block) : Std.HashMap String Nat :=
  Std.HashMap.ofList (blocks.zipIdx.map fun (b, i) => (b.id, i))

/-- A block list with its index built afresh. -/
def ofBlocks (blocks : List Block) : Graph := ⟨blocks, reindex blocks⟩

/-- Whether the index has an id. -/
def contains (g : Graph) (id : String) : Bool := g.index.contains id

/-- The block at the position the index gives for an id. -/
def get? (g : Graph) (id : String) : Option Block := g.index[id]?.bind fun i => g.blocks[i]?

/-- The number of blocks. -/
def size (g : Graph) : Nat := g.blocks.length

/-- An edit of a graph in place that may fail. -/
abbrev Edit (α : Type) := EStateM Error Graph α

/-- The position of the block with an id, or `unknownBlock`. -/
def position (id : String) : Edit Nat := do
  match (← get).index[id]? with
  | some i => pure i
  | none => throw (.unknownBlock id)

/-- Changes the block at a position. -/
def modifyBlock (pos : Nat) (f : Block → Block) : Edit Unit :=
  modify fun g => { g with blocks := g.blocks.modify pos f }

/-- Adds a block at the end; its id must be new to the index. -/
def insert (b : Block) : Edit Unit := do
  let g ← get
  if g.contains b.id then throw (.duplicateBlockId b.id)
  set ({ blocks := g.blocks ++ [b], index := g.index.insert b.id g.blocks.length } : Graph)

/-- The graph of a block list, inserted one by one into the empty graph: the first
repeated id is the error. -/
def ofList (blocks : List Block) : Except Error Graph :=
  match (blocks.forM insert).run empty with
  | .ok _ g => .ok g
  | .error e _ => .error e

/-- The graph of a snapshot's JSON text. -/
def ofJson (text : String) : Except Error Graph :=
  match Block.readList text with
  | .ok blocks => ofList blocks
  | .error e => .error (.serialization e)

/-- The snapshot as indented JSON text. -/
def toJson (g : Graph) : String := Block.listToJson g.blocks

/-- The chain from the block with id `id`: its child, that one's child, and so on, up to
a missing child or a block already in the chain. Nothing for an unknown id. -/
def chainFrom (g : Graph) (id : String) : List Block :=
  (Chain.walk g.get? (Chain.steps g.blocks) (g.get? id) []).1

end Graph

end BlockProgram
