import BlockProgram.Json.Typed
import BlockProgram.Json.Writer

/-! # Rule books

A rule book maps chapter names to the patterns a program of that chapter may follow; each
pattern is a list of token texts, one per block. Chapters are kept in the byte order of
their names, and a name given twice keeps its last patterns. The bundled elevator book
has sixteen chapters.

The rules of one chapter, `ChapterRules`, add an optional list of block types: when it is
present and not empty, blocks of other types are left out before exact matching.
-/

namespace BlockProgram

open Json

/-- A pattern as written: one token text per block. -/
abbrev RawPattern := List String

/-- Chapters with their patterns, ordered by name, each name once. -/
structure RuleBook where
  /-- The chapters, ordered by name. -/
  chapters : List (String × List RawPattern) := []
  deriving Inhabited, Repr

namespace RuleBook

/-- The book with a chapter's patterns set, replacing those it had. -/
def insert (b : RuleBook) (chapter : String) (patterns : List RawPattern) : RuleBook :=
  ⟨Reader.insertEntry chapter patterns b.chapters⟩

/-- The patterns of a chapter, if the book has it. -/
def patterns? (b : RuleBook) (chapter : String) : Option (List RawPattern) :=
  (b.chapters.find? (·.1 == chapter)).map (·.2)

/-- The number of chapters. -/
def size (b : RuleBook) : Nat := b.chapters.length

/-- Reads a list of strings. -/
def readStrings (depth : Nat) : Reader (List String) := Reader.list depth fun _ => Reader.text

/-- Reads a list of patterns. -/
def readPatterns (depth : Nat) : Reader (List RawPattern) := Reader.list depth readStrings

/-- Reads a rule book from JSON text: an object from chapter names to lists of patterns. -/
def ofJson (text : String) : Except ReadError RuleBook :=
  Reader.run (do return ⟨← Reader.dictionary Reader.maxDepth readPatterns⟩) text

/-- A list of strings as JSON. -/
def stringsJson (xs : List String) : Value := .array (xs.map .string)

/-- Patterns as JSON. -/
def patternsJson (ps : List RawPattern) : Value := .array (ps.map stringsJson)

/-- The book as a JSON object. -/
def toJson (b : RuleBook) : Value := .object (b.chapters.map fun (k, ps) => (k, patternsJson ps))

/-- The bundled elevator book: sixteen chapters, the first with three patterns. -/
def elevator : RuleBook :=
  let later : List RawPattern := [["green-flag", "up", "delay", "up"], ["green-flag", "up"]]
  let first : List RawPattern :=
    [["green-flag", "up", "down"], ["/^green[- ]?flag$/i", "down", "delay"],
     ["green-flag", "down"]]
  let name (n : Nat) := "chapter-" ++ (if n < 10 then "0" else "") ++ toString n
  ⟨("chapter-01", first) :: (List.range 15).map fun i => (name (i + 2), later)⟩

end RuleBook

/-- The rules of one chapter. -/
structure ChapterRules where
  /-- The patterns, any of which may match. -/
  states : List RawPattern
  /-- The block types kept before exact matching; `none` or empty keeps every block. -/
  blockTypes : Option (List String) := none
  deriving Inhabited, Repr

namespace ChapterRules

/-- Whether there are no patterns. -/
def isEmpty (r : ChapterRules) : Bool := r.states.isEmpty

/-- The fields of chapter rules read so far from an object. -/
structure Draft where
  /-- The patterns, once read. -/
  states : Option (List RawPattern) := none
  /-- The block types, once read. -/
  blockTypes : Option (Option (List String)) := none

/-- The reader for a known field of chapter rules written as an object. -/
def Draft.field (depth : Nat) (d : Draft) : String → Option (Reader Draft)
  | "states" => some do
    return { d with states := some (← Reader.once "states" d.states.isSome
      (RuleBook.readPatterns depth)) }
  | "blockTypes" => some do
    return { d with blockTypes := some (← Reader.once "blockTypes" d.blockTypes.isSome
      (Reader.optional (RuleBook.readStrings depth))) }
  | _ => none

/-- Reads chapter rules written as an object, after its opening brace. -/
def ofObject (depth : Nat) : Reader ChapterRules := do
  let d ← Reader.fields (Draft.field depth) (← Reader.budget) true {}
  let some states := d.states | throw (.missingField "states")
  return { states, blockTypes := d.blockTypes.getD none }

/-- Reads chapter rules written as an array of their fields, after its opening bracket. -/
def ofArray (depth : Nat) : Reader ChapterRules := do
  let states ← Reader.required true 0 (RuleBook.readPatterns depth)
  let blockTypes ← Reader.defaulted none (Reader.optional (RuleBook.readStrings depth))
  return { states, blockTypes }

/-- Reads chapter rules from JSON text. -/
def ofJson (text : String) : Except ReadError ChapterRules :=
  Reader.run (Reader.record Reader.maxDepth ofArray ofObject) text

/-- The rules as a JSON object; `blockTypes` is left out when unset. -/
def toJson (r : ChapterRules) : Value :=
  .object ([("states", RuleBook.patternsJson r.states)] ++
    match r.blockTypes with
    | some ts => [("blockTypes", RuleBook.stringsJson ts)]
    | none => [])

end ChapterRules

end BlockProgram
