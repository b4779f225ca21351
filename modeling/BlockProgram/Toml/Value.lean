/-! # TOML values

A TOML document is a table: keys with their values, in the order they were written. A
value is a string, a 64-bit signed integer, a float, a boolean, a date-time (kept as
written: nothing here reads its fields), an array, or a table. Tables written inline and
tables written under headers are the same value; only the reader tells them apart.
-/

namespace BlockProgram.Toml

/-- A TOML value. -/
inductive Value where
  /-- A string. -/
  | string (s : String)
  /-- An integer, between `-2 ^ 63` and `2 ^ 63 - 1`. -/
  | integer (n : Int)
  /-- A float. -/
  | float (f : Float)
  /-- `true` or `false`. -/
  | boolean (b : Bool)
  /-- An offset or local date-time, a local date or a local time, as written. -/
  | datetime (text : String)
  /-- An array; its items may differ in kind. -/
  | array (items : List Value)
  /-- A table, as its entries in order; each key once. -/
  | table (entries : List (String × Value))
  deriving Inhabited

namespace Value

/-- The value of a key of a table, or `none` for a missing key or a value that is no
table. -/
def field? (v : Value) (k : String) : Option Value :=
  match v with
  | .table entries => (entries.find? (·.1 == k)).map (·.2)
  | _ => none

/-- Whether the value is an empty table or an empty array. -/
def isEmptyContainer : Value → Bool
  | .table [] | .array [] => true
  | _ => false

end Value

end BlockProgram.Toml
