import BlockProgram.Toml.Scalar

/-! # TOML documents

A document is read line by line into a tree of tables (`Tree`). Each `[header]` or
`[[header]]` starts a section; the key-value lines of a section are collected apart and
put into the document when the section closes. What may be added where follows from how
each table came to be (`Origin`):

* a `[header]` defines a table once; a table that only led to a header further down
  (implicit) may be defined later, and its section then starts from what it holds;
* `[[header]]` appends a table to an array of tables, and a later header whose path runs
  through that array continues in its last table;
* a dotted key `a.b = 1` creates tables that only dotted keys of the same section extend;
  headers may pass through them but not define them;
* arrays and inline tables are values: nothing is added to them afterwards.

Arrays and inline tables nest at most 79 deep, and a key has fewer than 80 parts.
-/

namespace BlockProgram.Toml

/-- How a table of a document came to be, which decides what may still be added to it. -/
inductive Origin where
  /-- Defined by a `[header]`, or a table of an array of tables. -/
  | header
  /-- Created on the way to a header further down and not defined yet. -/
  | implicit
  /-- Created by a dotted key. -/
  | dotted
  deriving DecidableEq, Repr

/-- A table tree being built. -/
inductive Tree where
  /-- A value that takes no more keys: a scalar, an array or an inline table. -/
  | leaf (v : Value)
  /-- A table, with how it came to be and its entries in order. -/
  | table (origin : Origin) (entries : List (String × Tree))
  /-- An array of tables, each given by its entries. -/
  | tables (items : List (List (String × Tree)))

/-- The entries of a table being built. -/
abbrev Entries := List (String × Tree)

namespace Tree

mutual

/-- The value a tree stands for. -/
def toValue : Tree → Value
  | .leaf v => v
  | .table _ es => .table (entriesValue es)
  | .tables items => .array (itemsValue items)

/-- The entries of a table as values. -/
def entriesValue : List (String × Tree) → List (String × Value)
  | [] => []
  | (k, t) :: rest => (k, toValue t) :: entriesValue rest

/-- The tables of an array of tables as values. -/
def itemsValue : List (List (String × Tree)) → List Value
  | [] => []
  | es :: rest => .table (entriesValue es) :: itemsValue rest

end

/-- The tree under a key. -/
def find? (es : Entries) (k : String) : Option Tree := (es.find? (·.1 == k)).map (·.2)

/-- The entries with the tree under `k` replaced, or added last if `k` is new. -/
def put (es : Entries) (k : String) (t : Tree) : Entries :=
  if es.any (·.1 == k) then es.map fun (k', t') => (k', if k' == k then t else t')
  else es ++ [(k, t)]

/-- The entries without the key `k`. -/
def erase (es : Entries) (k : String) : Entries := es.filter (·.1 != k)

/-- Walks a header's key path down from a table's entries and applies `f` to the entries
where it ends. Missing tables on the way are created implicit, an array of tables is
entered at its last table, and a value on the way is an error. -/
def atPath (f : Entries → Except ParseError (Entries × α)) :
    List String → Entries → Except ParseError (Entries × α)
  | [], es => f es
  | k :: rest, es =>
    match find? es k with
    | none => do
      let (sub, a) ← atPath f rest []
      return (put es k (.table .implicit sub), a)
    | some (.table o sub) => do
      let (sub, a) ← atPath f rest sub
      return (put es k (.table o sub), a)
    | some (.tables items) =>
      match items.getLast? with
      | some last => do
        let (last, a) ← atPath f rest last
        return (put es k (.tables (items.dropLast ++ [last])), a)
      | none => throw (.notATable k)
    | some (.leaf _) => throw (.notATable k)

/-- Walks a dotted key's leading parts down from a section's entries and applies `f` to
the entries of the table reached. On the way, missing tables are created as dotted, and
tables defined by a header stop the walk; the table reached last must be a dotted one. -/
def atDotted (f : Entries → Except ParseError Entries) :
    List String → Entries → Except ParseError Entries
  | [], es => f es
  | [k], es =>
    match find? es k with
    | none => do return put es k (.table .dotted (← f []))
    | some (.table .dotted sub) => do return put es k (.table .dotted (← f sub))
    | some (.leaf _) => throw (.notATable k)
    | some _ => throw (.duplicate k)
  | k :: rest, es =>
    match find? es k with
    | none => do return put es k (.table .dotted (← atDotted f rest []))
    | some (.table .header _) => throw (.duplicate k)
    | some (.table o sub) => do return put es k (.table o (← atDotted f rest sub))
    | some (.tables items) =>
      match items.getLast? with
      | some last => do return put es k (.tables (items.dropLast ++ [← atDotted f rest last]))
      | none => throw (.notATable k)
    | some (.leaf _) => throw (.notATable k)

/-- Puts a value under a key path into a section's entries; the key itself must be new. -/
def insert (path : List String) (name : String) (v : Value) (es : Entries) :
    Except ParseError Entries :=
  atDotted (fun es =>
    if (find? es name).isSome then .error (.duplicate name) else .ok (es ++ [(name, .leaf v)]))
    path es

end Tree

/-- Where the entries of the section being read go when it closes. -/
inductive Section where
  /-- The top of the document, before any header. -/
  | root
  /-- The table `[parent.name]`. -/
  | table (parent : List String) (name : String)
  /-- A new last table of the array `[[parent.name]]`. -/
  | arrayItem (parent : List String) (name : String)

namespace Section

/-- Starts the section of a `[table]` header: an implicit table of that name leaves the
document and the section starts from its entries; any other table or value of that name
is a redefinition. Returns the document and the section's first entries. -/
def openTable (parent : List String) (name : String) (root : Entries) :
    Except ParseError (Entries × Entries) :=
  Tree.atPath (fun es =>
    match Tree.find? es name with
    | none => .ok (es, [])
    | some (.table .implicit sub) => .ok (Tree.erase es name, sub)
    | some _ => .error (.duplicate name)) parent root

/-- Starts the section of an `[[array]]` header: the name must be new or an array of
tables. -/
def openArrayItem (parent : List String) (name : String) (root : Entries) :
    Except ParseError Entries :=
  (Tree.atPath (fun es =>
    match Tree.find? es name with
    | none => .ok (Tree.put es name (.tables []), ())
    | some (.tables _) => .ok (es, ())
    | some _ => .error (.duplicate name)) parent root).map (·.1)

/-- Puts the entries of a section into the document. -/
def close (s : Section) (entries root : Entries) : Except ParseError Entries :=
  match s with
  | .root => .ok (root ++ entries)
  | .table parent name =>
    (Tree.atPath (fun es => .ok (Tree.put es name (.table .header entries), ())) parent
      root).map (·.1)
  | .arrayItem parent name =>
    (Tree.atPath (fun es =>
      match Tree.find? es name with
      | some (.tables items) => .ok (Tree.put es name (.tables (items ++ [entries])), ())
      | _ => .error (.duplicate name)) parent root).map (·.1)

end Section

namespace Reader

/-- The most parts a key may have, plus one. -/
def keyLimit : Nat := 80

/-- The most arrays and inline tables that may nest. -/
def nestingLimit : Nat := 79

/-- Whether a character may stand in a bare key. -/
def isBareKeyChar (c : Char) : Bool :=
  ('A' ≤ c && c ≤ 'Z') || ('a' ≤ c && c ≤ 'z') || ('0' ≤ c && c ≤ '9') || c == '-' || c == '_'

/-- Reads one part of a key: bare, or a basic or literal string. -/
def simpleKey : Reader String := do
  match ← peek with
  | some '"' | some '\'' => Scalar.keyString
  | some c =>
    if isBareKeyChar c then do
      let cs ← get
      let name := cs.takeWhile isBareKeyChar
      set (cs.drop name.length)
      return String.ofList name
    else throw .unexpected
  | none => throw .unexpected

/-- The parts of a dotted key after its first, `acc` holding those read, last first. -/
def keyParts : Nat → List String → Reader (List String)
  | 0, acc => return acc.reverse
  | fuel + 1, acc => do
    skipBlanks
    if (← peek) == some '.' then
      eat
      skipBlanks
      keyParts fuel ((← simpleKey) :: acc)
    else return acc.reverse

/-- Reads a key: simple keys joined by dots, with blanks allowed around the dots. -/
def key : Reader (List String) := do
  let first ← simpleKey
  let parts ← keyParts (← budget) [first]
  if parts.length ≥ keyLimit then throw .tooDeep
  return parts

/-- A key's leading parts and its last one. -/
def splitKey (parts : List String) : Reader (List String × String) :=
  match parts.getLast? with
  | some name => return (parts.dropLast, name)
  | none => throw .unexpected

mutual

/-- Reads a value; `depth` is how many more arrays and inline tables may open inside
each other. -/
def value (depth : Nat) : Reader Value := do
  match ← peek with
  | some '[' =>
    match depth with
    | 0 => throw .tooDeep
    | d + 1 => do eat; arrayItems d (← budget) []
  | some '{' =>
    match depth with
    | 0 => throw .tooDeep
    | d + 1 => do
      eat
      skipBlanks
      if (← peek) == some '}' then do eat; return .table []
      else inlineEntries d (← budget) []
  | _ => Scalar.scalar
termination_by (depth, 0)

/-- The items of an array after its opening bracket, `acc` holding those read, last
first. Blanks, comments and line ends may stand around items and commas, and a comma
may follow the last item. -/
def arrayItems (depth : Nat) : Nat → List Value → Reader Value
  | 0, _ => throw .unexpected
  | fuel + 1, acc => do
    skipBlankLines (← budget)
    if (← peek) == some ']' then do eat; return .array acc.reverse
    else
      let v ← value depth
      skipBlankLines (← budget)
      match ← peek with
      | some ',' => do eat; arrayItems depth fuel (v :: acc)
      | some ']' => do eat; return .array (v :: acc).reverse
      | _ => throw .unexpected
termination_by fuel => (depth, fuel + 1)

/-- The key-value pairs of an inline table after its opening brace, on one line,
separated by commas, with no comma after the last. -/
def inlineEntries (depth : Nat) : Nat → Entries → Reader Value
  | 0, _ => throw .unexpected
  | fuel + 1, es => do
    skipBlanks
    let (path, name) ← splitKey (← key)
    skipBlanks
    expect '='
    skipBlanks
    let v ← value depth
    let es ← (Tree.insert path name v es : Except ParseError Entries)
    skipBlanks
    match ← peek with
    | some ',' => do eat; inlineEntries depth fuel es
    | some '}' => do eat; return .table (Tree.entriesValue es)
    | _ => throw .unexpected
termination_by fuel => (depth, fuel + 1)

end

/-- The state of reading a document: the document outside the section being read, the
entries of that section, and where they go. -/
structure Builder where
  /-- The document without the section being read. -/
  root : Entries := []
  /-- The entries of the section being read. -/
  current : Entries := []
  /-- Where the section goes when it closes. -/
  place : Section := .root

/-- Reads a header after its opening bracket: closes the section being read and starts
the header's. -/
def header (b : Builder) : Reader Builder := do
  let isArray ← if (← peek) == some '[' then do eat; pure true else pure false
  skipBlanks
  let (parent, name) ← splitKey (← key)
  skipBlanks
  expect ']'
  if isArray then expect ']'
  let root ← (b.place.close b.current b.root : Except ParseError Entries)
  if isArray then
    let root ← (Section.openArrayItem parent name root : Except ParseError Entries)
    return { root, current := [], place := .arrayItem parent name }
  else
    let (root, current) ← (Section.openTable parent name root : Except ParseError _)
    return { root, current, place := .table parent name }

/-- Reads a key-value pair into the section being read. -/
def keyValue (b : Builder) : Reader Builder := do
  let (path, name) ← splitKey (← key)
  skipBlanks
  expect '='
  skipBlanks
  let v ← value nestingLimit
  return { b with current := ← (Tree.insert path name v b.current : Except ParseError _) }

/-- Reads the lines of a document: blank lines, comments, headers and key-value pairs,
each ending its line. -/
def lines : Nat → Builder → Reader Builder
  | 0, b => pure b
  | fuel + 1, b => do
    skipBlanks
    match ← peek with
    | none => return b
    | some '[' => do eat; let b ← header b; lineEnd; lines fuel b
    | some '#' | some '\n' | some '\r' => do lineEnd; lines fuel b
    | some _ => do let b ← keyValue b; lineEnd; lines fuel b

/-- Reads a whole document, after an optional byte order mark. -/
def document : Reader Value := do
  if (← peek) == some '\uFEFF' then eat
  let b ← lines (← budget) {}
  if !(← get).isEmpty then throw .unexpected
  let root ← (b.place.close b.current b.root : Except ParseError Entries)
  return .table (Tree.entriesValue root)

end Reader

/-- Reads a TOML document into its top table. -/
def parse (text : String) : Except ParseError Value :=
  (Reader.document.run text.toList).map (·.1)

end BlockProgram.Toml
