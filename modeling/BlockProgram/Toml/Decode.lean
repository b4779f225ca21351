import BlockProgram.Toml.Value
import BlockProgram.Decimal.Rounding

/-! # Reading typed settings out of TOML values

A `Decoder` turns a TOML value into a value of a Lean type, or says why it does not fit.
The rules are those of a record-and-enum data model:

* strings, booleans and floats read from their own kind; a float also reads from an
  integer, converted to the nearest double; an unsigned integer reads from an integer in
  its range;
* a list reads from an array, and a string map from a table;
* a record reads from a table by field names, ignoring other keys, or from an array by
  position, ignoring items past its fields; a date-time reads as a table with none of the
  fields. A missing field takes its default, or fails when it has none;
* an enumeration reads from the name of one of its cases, or from a table with exactly
  one key, that name, whose value is an empty table or array.
-/

namespace BlockProgram.Toml

/-- Why a TOML value does not fit the type asked for. -/
inductive DecodeError where
  /-- The value is of another kind than the one asked for. -/
  | wrongKind (expected : String)
  /-- An integer outside the range of its type. -/
  | outOfRange (n : Int)
  /-- A record field with no value and no default. -/
  | missingField (name : String)
  /-- A name that is no case of the enumeration. -/
  | unknownVariant (name : String)
  deriving Repr

/-- Reads a value of type `α` from a TOML value. -/
abbrev Decoder (α : Type) := Value → Except DecodeError α

namespace Decoder

/-- A string. -/
def string : Decoder String
  | .string s => .ok s
  | _ => .error (.wrongKind "a string")

/-- A boolean. -/
def bool : Decoder Bool
  | .boolean b => .ok b
  | _ => .error (.wrongKind "a boolean")

/-- A float, or an integer converted to the nearest double. -/
def float : Decoder Float
  | .float f => .ok f
  | .integer n => .ok (Decimal.ofInt n)
  | _ => .error (.wrongKind "a float")

/-- An integer from `0` up to, not including, `bound`. -/
def natBelow (bound : Nat) : Decoder Nat
  | .integer n => if 0 ≤ n ∧ n < bound then .ok n.toNat else .error (.outOfRange n)
  | _ => .error (.wrongKind "an integer")

/-- An unsigned 32-bit integer. -/
def u32 : Decoder UInt32 := fun v => (natBelow (Nat.pow 2 32) v).map Nat.toUInt32

/-- An unsigned 64-bit integer. -/
def u64 : Decoder UInt64 := fun v => (natBelow (Nat.pow 2 64) v).map Nat.toUInt64

/-- A list, from an array. -/
def list (d : Decoder α) : Decoder (List α)
  | .array items => items.mapM d
  | _ => .error (.wrongKind "an array")

/-- Puts a key into a key-sorted list, replacing the value of an equal key. -/
def insertSorted (k : String) (a : α) : List (String × α) → List (String × α)
  | [] => [(k, a)]
  | (k', a') :: rest =>
    if k = k' then (k, a) :: rest
    else if k < k' then (k, a) :: (k', a') :: rest
    else (k', a') :: insertSorted k a rest

/-- A map from strings, from a table; the entries come out ordered by key. -/
def stringMap (d : Decoder α) : Decoder (List (String × α))
  | .table entries =>
    entries.foldlM (fun acc (k, v) => do return insertSorted k (← d v) acc) []
  | _ => .error (.wrongKind "a table")

/-- A case of an enumeration, given by name. -/
def variant (cases : List (String × α)) : Decoder α
  | .string s =>
    match cases.find? (·.1 == s) with
    | some (_, a) => .ok a
    | none => .error (.unknownVariant s)
  | .table [(s, v)] =>
    if v.isEmptyContainer then
      match cases.find? (·.1 == s) with
      | some (_, a) => .ok a
      | none => .error (.unknownVariant s)
    else .error (.wrongKind "an empty table")
  | _ => .error (.wrongKind "a case name")

end Decoder

/-- The fields of a record as given: by name from a table, or by position from an
array. -/
inductive Fields where
  /-- Fields by name. -/
  | named (entries : List (String × Value))
  /-- Fields by position. -/
  | positional (items : List Value)

namespace Fields

/-- The fields a value gives a record. A date-time gives none: it reads as a table whose
only key names no field. -/
def of : Value → Except DecodeError Fields
  | .table entries => .ok (.named entries)
  | .array items => .ok (.positional items)
  | .datetime _ => .ok (.named [])
  | _ => .error (.wrongKind "a table")

/-- The value given for field number `index`, called `name`. -/
def get? (fs : Fields) (index : Nat) (name : String) : Option Value :=
  match fs with
  | .named entries => (entries.find? (·.1 == name)).map (·.2)
  | .positional items => items[index]?

/-- The field number `index`, called `name`, read by `d`, or `default` when not given. -/
def withDefault (fs : Fields) (index : Nat) (name : String) (d : Decoder α) (default : α) :
    Except DecodeError α :=
  match fs.get? index name with
  | some v => d v
  | none => .ok default

/-- The field number `index`, called `name`, read by `d`; it must be given. -/
def required (fs : Fields) (index : Nat) (name : String) (d : Decoder α) :
    Except DecodeError α :=
  match fs.get? index name with
  | some v => d v
  | none => .error (.missingField name)

end Fields

end BlockProgram.Toml
