import BlockProgram.Json.Reader

/-! # Reading JSON into typed values

Readers for values of an expected kind: a string, a number read as a double, `null` for
an absent value, an array of like elements, a record (written as an object, or as an array
of its fields in order), and an object with string keys. A value of another kind is a
`data` fault, found by `Reader.wrongKind` only after the value has been scanned.
The `depth` arguments count the nesting levels left, as in `Reader.value`.
-/

namespace BlockProgram.Json.Reader

/-- Reads a string. -/
def text : Reader String := do
  match ← valueStart with
  | '"' => eat; string
  | _ => wrongKind "a string"

/-- Reads a number as a double; integers convert to the nearest double. -/
def double : Reader Float := do
  match ← valueStart with
  | '-' => eat; return (← number false).toFloat
  | c => if isDigit c then return (← number true).toFloat else wrongKind "a number"

/-- Reads `null` as `none` and anything else with `r`. -/
def optional (r : Reader α) : Reader (Option α) := do
  match ← peekBlank with
  | some 'n' => eat; ident ['u', 'l', 'l']; return none
  | _ => return some (← r)

/-- Reads an array whose elements `elem` reads, given the nesting levels left inside. -/
def list (depth : Nat) (elem : Nat → Reader α) : Reader (List α) := do
  match ← valueStart with
  | '[' => container depth (fun d => do elements (elem d) (← budget) true) endArray
  | _ => wrongKind "a sequence"

/-- Reads a record: from an array by `ofArray`, or from an object by `ofObject`. -/
def record (depth : Nat) (ofArray ofObject : Nat → Reader α) : Reader α := do
  match ← valueStart with
  | '[' => container depth ofArray endArray
  | '{' => container depth ofObject endObject
  | _ => wrongKind "a record"

/-- Puts an entry into a key-sorted list, replacing the entry of an equal key. -/
def insertEntry (k : String) (v : α) : List (String × α) → List (String × α)
  | [] => [(k, v)]
  | (k', v') :: rest =>
    if k = k' then (k, v) :: rest
    else if k < k' then (k, v) :: (k', v') :: rest
    else (k', v') :: insertEntry k v rest

/-- The remaining members of an object, each value read by `elem`, sorted by key with the
last of a repeated key winning. -/
def entries (elem : Reader α) : Nat → Bool → List (String × α) → Reader (List (String × α))
  | 0, _, acc => return acc
  | fuel + 1, first, acc => do
    match ← key first with
    | none => return acc
    | some k =>
      colon
      let v ← elem
      entries elem fuel false (insertEntry k v acc)

/-- Reads an object with string keys into a key-sorted list of entries. -/
def dictionary (depth : Nat) (elem : Nat → Reader α) : Reader (List (String × α)) := do
  match ← valueStart with
  | '{' => container depth (fun d => do entries (elem d) (← budget) true []) endObject
  | _ => wrongKind "a map"

/-- The remaining members of a record written as an object: `field` reads the value of a
known key into the state, or returns `none` for a key it does not know, whose value is
then skipped. -/
def fields (field : σ → String → Option (Reader σ)) : Nat → Bool → σ → Reader σ
  | 0, _, s => return s
  | fuel + 1, first, s => do
    match ← key first with
    | none => return s
    | some k =>
      match field s k with
      | some r => fields field fuel false (← r)
      | none =>
        colon
        skip
        fields field fuel false s

/-- Reads a required element of a record written as an array: its absence is a fault
naming how many elements there were. -/
def required (first : Bool) (index : Nat) (r : Reader α) : Reader α := do
  match ← element first r with
  | some a => return a
  | none => throw (.invalidLength index)

/-- Reads an optional element of a record written as an array, with a default. -/
def defaulted (default : α) (r : Reader α) : Reader α := do
  return (← element false r).getD default

/-- A field that must not be given twice: reads its value after the colon, or fails if it
was given before. -/
def once (name : String) (given : Bool) (r : Reader α) : Reader α := do
  if given then throw (.duplicateField name)
  colon
  r

end BlockProgram.Json.Reader
