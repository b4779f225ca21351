import BlockProgram.Block.Basic
import BlockProgram.Json.Typed
import BlockProgram.Json.Writer

/-! # Blocks as JSON

A snapshot is a JSON array of blocks. A block is written as an object with the fields
`id`, `type`, `value` (left out when absent), `x`, `y`, `parentId` and `childId`, in that
order. Reading accepts the fields in any order, or a block written as an array of them in
that order; `id` and `type` are required strings, a repeated field is a fault, unknown
fields are skipped, `x` and `y` default to zero and must be numbers, and the links are
strings or `null`.

The `value` field is read leniently (`Block.valueOfJson`): any JSON value is accepted, and
only a number that is a whole number from 0 to `2 ^ 32 - 1` becomes the block's value.
-/

namespace BlockProgram

open Json

namespace Block

/-- The value a JSON value gives a block: a whole number from 0 to `2 ^ 32 - 1` (as an
integer or as a float with no fraction, `-0.0` included), and nothing for any other value. -/
def valueOfJson : Json.Value → Option UInt32
  | .number (.nat n) => if n ≤ 4294967295 then some n.toUInt32 else none
  | .number (.float f) =>
    if f ≥ 0 && f ≤ 4294967295 && f.floor == f then some f.toUInt32 else none
  | _ => none

/-- The fields of a block read so far from an object. -/
structure Draft where
  /-- The id, once read. -/
  id : Option String := none
  /-- The type, once read. -/
  type : Option BlockType := none
  /-- The value, once read. -/
  value : Option (Option UInt32) := none
  /-- The horizontal position, once read. -/
  x : Option Float := none
  /-- The vertical position, once read. -/
  y : Option Float := none
  /-- The parent link, once read. -/
  parent : Option (Option String) := none
  /-- The child link, once read. -/
  child : Option (Option String) := none

/-- Reads the `value` field: any value, or `null`, leniently. -/
def valueField (depth : Nat) : Reader (Option UInt32) := do
  return ((← Reader.optional (Reader.value depth)).bind valueOfJson)

/-- The reader for a known field of a block written as an object. -/
def Draft.field (depth : Nat) (d : Draft) : String → Option (Reader Draft)
  | "id" => some do return { d with id := some (← Reader.once "id" d.id.isSome Reader.text) }
  | "type" => some do
    return { d with type := some (.ofName (← Reader.once "type" d.type.isSome Reader.text)) }
  | "value" => some do
    return { d with value := some (← Reader.once "value" d.value.isSome (valueField depth)) }
  | "x" => some do return { d with x := some (← Reader.once "x" d.x.isSome Reader.double) }
  | "y" => some do return { d with y := some (← Reader.once "y" d.y.isSome Reader.double) }
  | "parentId" => some do
    return { d with parent := some (← Reader.once "parentId" d.parent.isSome
      (Reader.optional Reader.text)) }
  | "childId" => some do
    return { d with child := some (← Reader.once "childId" d.child.isSome
      (Reader.optional Reader.text)) }
  | _ => none

/-- Reads a block written as an object, after its opening brace. -/
def ofObject (depth : Nat) : Reader Block := do
  let d ← Reader.fields (Draft.field depth) (← Reader.budget) true {}
  let some id := d.id | throw (.missingField "id")
  let some type := d.type | throw (.missingField "type")
  return { id, type, value := d.value.getD none, x := d.x.getD 0, y := d.y.getD 0,
           parent := d.parent.getD none, child := d.child.getD none }

/-- Reads a block written as an array of its fields, after its opening bracket. -/
def ofArray (depth : Nat) : Reader Block := do
  let id ← Reader.required true 0 Reader.text
  let type ← Reader.required false 1 Reader.text
  let value ← Reader.defaulted none (valueField depth)
  let x ← Reader.defaulted 0 Reader.double
  let y ← Reader.defaulted 0 Reader.double
  let parent ← Reader.defaulted none (Reader.optional Reader.text)
  let child ← Reader.defaulted none (Reader.optional Reader.text)
  return { id, type := .ofName type, value, x, y, parent, child }

/-- Reads one block with `depth` nesting levels left. -/
def reader (depth : Nat) : Reader Block := Reader.record depth ofArray ofObject

/-- Reads a snapshot: a JSON text holding an array of blocks. -/
def readList (text : String) : Except ReadError (List Block) :=
  Reader.run (Reader.list Reader.maxDepth reader) text

/-- Reads one block from a JSON text. -/
def read (text : String) : Except ReadError Block :=
  Reader.run (reader Reader.maxDepth) text

/-- An optional link as JSON: the id, or `null`. -/
def linkJson : Option String → Json.Value
  | some s => .string s
  | none => .null

/-- The members of a block's JSON object, in the order snapshots write them. -/
def jsonFields (b : Block) : List (String × Json.Value) :=
  [("id", .string b.id), ("type", .string b.type.name)] ++
    (match b.value with
     | some v => [("value", .number (.nat v.toNat))]
     | none => []) ++
    [("x", .number (.float b.x)), ("y", .number (.float b.y)),
     ("parentId", linkJson b.parent), ("childId", linkJson b.child)]

/-- A block as a JSON object, fields in the order snapshots write them. -/
def toJson (b : Block) : Json.Value := .object b.jsonFields

/-- A snapshot as indented JSON text. -/
def listToJson (blocks : List Block) : String :=
  (Json.Value.array (blocks.map toJson)).pretty

end Block

end BlockProgram
