import BlockProgram.Graph.Basic

/-! # Editing a block graph

The edits a workspace makes: linking a chain under a block (`attach`), unlinking a block
from its parent (`detach`), removing a block with everything after it (`removeChain`),
setting a delay's value (`setDelayValue`) and rebuilding every child link from the parent
links (`normalizeLinks`). Each looks its blocks up through the index and changes them in
place, in the order the steps are written.
-/

namespace BlockProgram

namespace Graph

/-- Clears the child link of the block `parent` names when that link names `id`. -/
def unlinkFrom (parent : Option String) (id : String) : Edit Unit := do
  match parent with
  | some p =>
    let g ← get
    match g.index[p]? with
    | some parentPos =>
      if (g.blocks[parentPos]?.bind (·.child)) == some id then
        modifyBlock parentPos fun b => { b with child := none }
    | none => pure ()
  | none => pure ()

/-- Unlinks a block from its parent. The parent's child link is cleared only if it named
this block. -/
def detach (id : String) : Edit Unit := do
  let pos ← position id
  let parent := ((← get).blocks[pos]?).bind (·.parent)
  modifyBlock pos fun b => { b with parent := none }
  unlinkFrom parent id

/-- Links `child`, with the chain below it, directly after `parent`. The child is first
unlinked from its old parent. When `parent` already had a child that exists and is not
in the moved chain, that block follows the moved chain's last block:
`parent → child … tail → old child`. Linking a block under one of its own chain would
close a loop and is refused. -/
def attach (child parent : String) : Edit Unit := do
  let childPos ← position child
  let parentPos ← position parent
  let g ← get
  let moved := (g.chainFrom child).map (·.id)
  if moved.contains parent then throw (.wouldCycle parent child)
  let displaced := (g.blocks[parentPos]?.bind (·.child)).filter fun d =>
    g.contains d && !moved.contains d
  detach child
  modifyBlock childPos fun b => { b with parent := some parent }
  modifyBlock parentPos fun b => { b with child := some child }
  match displaced, moved.getLast? with
  | some d, some tail =>
    let tailPos ← position tail
    let displacedPos ← position d
    modifyBlock tailPos fun b => { b with child := some d }
    modifyBlock displacedPos fun b => { b with parent := some tail }
  | _, _ => pure ()

/-- Removes a block and its chain, returning the removed blocks in graph order. The
others keep their order and get a new index; the former parent's child link is cleared
only if it named the removed block. -/
def removeChain (id : String) : Edit (List Block) := do
  let pos ← position id
  let g ← get
  let parent := (g.blocks[pos]?).bind (·.parent)
  let doomed := (g.chainFrom id).map (·.id)
  let (removed, kept) := g.blocks.partition fun b => doomed.contains b.id
  set (ofBlocks kept)
  unlinkFrom parent id
  return removed

/-- A delay value clamped to the editor's range. -/
def clampDelay (v : UInt32) : UInt32 := if v < delayMin then delayMin else min v delayMax

/-- Sets a delay block's value, clamped to the editor's range, and returns it. -/
def setDelayValue (id : String) (v : UInt32) : Edit UInt32 := do
  let pos ← position id
  match (← get).blocks[pos]? with
  | some b =>
    if !b.type.isDelay then throw (.notADelay id)
    let c := clampDelay v
    modifyBlock pos fun b => { b with value := some c }
    return c
  | none => throw (.unknownBlock id)

/-- The id of the last block in graph order whose parent is `id`. -/
def lastChildOf (g : Graph) (id : String) : Option String :=
  (g.blocks.filter (·.parent == some id)).getLast?.map (·.id)

/-- Recomputes every child link from the parent links: a block's child is the last block
in graph order that names it as parent, or none. -/
def normalizeLinks (g : Graph) : Graph :=
  { g with blocks := g.blocks.map fun b => { b with child := g.lastChildOf b.id } }

end Graph

end BlockProgram
