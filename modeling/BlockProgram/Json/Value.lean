import BlockProgram.Decimal.Rounding

/-! # JSON values

A JSON value as the block tools read it: numbers keep the reader's classification
(a non-negative integer below `2 ^ 64`, a negative integer from `-2 ^ 63`, or a float),
and an object is a list of fields. Objects read from text have their keys sorted and
unique, the last of a repeated key winning (`Value.insertField`); objects built for output
keep the order they are written in.
-/

namespace BlockProgram.Json

/-- A JSON number: how the reader classified it. -/
inductive Number where
  /-- A non-negative integer below `2 ^ 64`. -/
  | nat (n : Nat)
  /-- A negative integer from `-2 ^ 63`. -/
  | neg (n : Int)
  /-- Any other number: a fraction, an exponent, `-0`, or an integer out of range. -/
  | float (f : Float)

/-- A JSON value. -/
inductive Value where
  /-- `null`. -/
  | null
  /-- `true` or `false`. -/
  | bool (b : Bool)
  /-- A number. -/
  | number (n : Number)
  /-- A string. -/
  | string (s : String)
  /-- An array. -/
  | array (items : List Value)
  /-- An object, as its fields in order. -/
  | object (fields : List (String × Value))

namespace Value

/-- Puts a field into a key-sorted field list, replacing the value of an equal key. -/
def insertField (k : String) (v : Value) : List (String × Value) → List (String × Value)
  | [] => [(k, v)]
  | (k', v') :: rest =>
    if k = k' then (k, v) :: rest
    else if k < k' then (k, v) :: (k', v') :: rest
    else (k', v') :: insertField k v rest

/-- The value of a field of an object, or `none` for a missing field or a non-object. -/
def field? (v : Value) (k : String) : Option Value :=
  match v with
  | .object fields => (fields.find? (·.1 == k)).map (·.2)
  | _ => none

end Value

/-- A number as a double: integers convert to the nearest double, ties to even. -/
def Number.toFloat : Number → Float
  | .nat n => Decimal.ofNat n
  | .neg n => Decimal.ofInt n
  | .float f => f

end BlockProgram.Json
