import BlockProgram.Block.Basic

/-! # Chains of blocks

Blocks name each other only by id, so every walk goes through an id lookup and a set of
visited ids; a missing child, a dangling id or a block seen before ends a chain. In a
snapshot the lookup of an id finds the last block with that id.

* `Chain.executionChains` groups every block of a snapshot into chains: first the chains
  from the heads (blocks without a parent), then from every block not yet reached, both
  in snapshot order, with one visited set for all; `Chain.linearize` joins them.
* `Chain.validationChains` has one chain per head, or per block when there is no head,
  each with its own visited set.
* `Chain.programAfterFlag` is the program below a green flag, with the flag counted as
  visited.
-/

namespace BlockProgram

namespace Chain

/-- The block a snapshot's lookup finds for an id: the last one with that id. -/
def lookup (blocks : List Block) (id : String) : Option Block :=
  blocks.reverse.find? (·.id == id)

/-- Follows child links from `start` through `find`, stopping at a missing block or one
whose id is in `visited`. Returns the chain and the visited ids with the chain's added. -/
def walk (find : String → Option Block) : Nat → Option Block → List String →
    List Block × List String
  | 0, _, visited => ([], visited)
  | _ + 1, none, visited => ([], visited)
  | fuel + 1, some b, visited =>
    if b.id ∈ visited then ([], visited)
    else
      let (rest, seen) := walk find fuel (b.child.bind find) (b.id :: visited)
      (b :: rest, seen)

/-- Enough steps for a walk over `blocks`: each step visits a new id. -/
def steps (blocks : List Block) : Nat := blocks.length + 1

/-- Walks from each of `starts` not yet visited, in order, sharing the visited set. -/
def walkEach (find : String → Option Block) (fuel : Nat) :
    List Block → List String → List (List Block) × List String
  | [], visited => ([], visited)
  | b :: rest, visited =>
    if b.id ∈ visited then walkEach find fuel rest visited
    else
      let (chain, seen) := walk find fuel (some b) visited
      let (chains, seen') := walkEach find fuel rest seen
      (chain :: chains, seen')

/-- Every block once, grouped into chains: from the heads first, then from every block
not yet reached, both in snapshot order. -/
def executionChains (blocks : List Block) : List (List Block) :=
  let find := lookup blocks
  let (fromHeads, seen) := walkEach find (steps blocks) (blocks.filter (·.isHead)) []
  fromHeads ++ (walkEach find (steps blocks) blocks seen).1

/-- The execution chains joined into one order. -/
def linearize (blocks : List Block) : List Block := (executionChains blocks).flatten

/-- One chain per head, or per block when no block is a head, each walked afresh. -/
def validationChains (blocks : List Block) : List (List Block) :=
  let heads := blocks.filter (·.isHead)
  let starts := if heads.isEmpty then blocks else heads
  starts.map fun b => (walk (lookup blocks) (steps blocks) (some b) []).1

/-- The chain that starts at the block an id finds, or nothing for an unknown id. -/
def chainFrom (blocks : List Block) (id : String) : List Block :=
  (walk (lookup blocks) (steps blocks) (lookup blocks id) []).1

/-- The program below a green flag: the chain from the flag's child, with the flag
counted as visited so that a link back to it ends the program. Nothing when the id is
unknown, names no green flag, or the flag has no child that exists. -/
def programAfterFlag (blocks : List Block) (flag : String) : List Block :=
  match lookup blocks flag with
  | some f =>
    if f.type != .greenFlag then []
    else
      match f.child.bind (lookup blocks) with
      | some start => (walk (lookup blocks) (steps blocks) (some start) [f.id]).1
      | none => []
  | none => []

end Chain

end BlockProgram
