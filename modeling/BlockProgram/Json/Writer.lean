import BlockProgram.Json.Value
import BlockProgram.Decimal.Layout

/-! # Writing JSON text

Strings are quoted with the fewest escapes: a quote, a backslash and the control
characters below U+0020 are escaped (the five with short forms as `\b`, `\t`, `\n`, `\f`,
`\r`, the rest as `\u00xx` in lowercase hexadecimal); every other character, non-ASCII
included, is written as it is. Floats take `Decimal.Layout.json`. Text comes in two
layouts: `compact`, with no blanks, and `pretty`, one element or member per line indented
by two spaces, `": "` after keys, and `[]` or `{}` for an empty container.
-/

namespace BlockProgram.Json

/-- The lowercase hexadecimal digit of a value below 16. -/
def hexDigit (n : Nat) : Char :=
  if n < 10 then Char.ofNat ('0'.toNat + n) else Char.ofNat ('a'.toNat + n - 10)

/-- The escaped form of one character inside a JSON string. -/
def escapeChar (c : Char) : List Char :=
  match c with
  | '"' => ['\\', '"']
  | '\\' => ['\\', '\\']
  | '\x08' => ['\\', 'b']
  | '\x0c' => ['\\', 'f']
  | '\n' => ['\\', 'n']
  | '\r' => ['\\', 'r']
  | '\t' => ['\\', 't']
  | c =>
    if c.toNat < 0x20 then ['\\', 'u', '0', '0', hexDigit (c.toNat / 16), hexDigit (c.toNat % 16)]
    else [c]

/-- The escaped characters of a string, without the quotes. -/
def escape : List Char → List Char
  | [] => []
  | c :: cs => escapeChar c ++ escape cs

/-- A string as a JSON string literal. -/
def quote (s : String) : String := "\"" ++ String.ofList (escape s.toList) ++ "\""

/-- A number as JSON text. -/
def Number.render : Number → String
  | .nat n => toString n
  | .neg n => toString n
  | .float f => Decimal.Layout.json.render f

namespace Value

mutual

/-- A value as JSON text without blanks, fields in their order. -/
def compact : Value → String
  | .null => "null"
  | .bool b => if b then "true" else "false"
  | .number n => n.render
  | .string s => quote s
  | .array items => "[" ++ compactItems items ++ "]"
  | .object fields => "\x7b" ++ compactFields fields ++ "\x7d"

/-- Array elements without blanks, separated by commas. -/
def compactItems : List Value → String
  | [] => ""
  | [v] => v.compact
  | v :: rest => v.compact ++ "," ++ compactItems rest

/-- Object members without blanks, separated by commas. -/
def compactFields : List (String × Value) → String
  | [] => ""
  | [(k, v)] => quote k ++ ":" ++ v.compact
  | (k, v) :: rest => quote k ++ ":" ++ v.compact ++ "," ++ compactFields rest

end

/-- The blanks before a line nested `level` deep. -/
def indent (level : Nat) : String := String.ofList (List.replicate (2 * level) ' ')

mutual

/-- A value as JSON text with one element or member per line, nested `level` deep. -/
def prettyAt (level : Nat) : Value → String
  | .array [] => "[]"
  | .object [] => "\x7b\x7d"
  | .array items => "[\n" ++ prettyItems (level + 1) items ++ "\n" ++ indent level ++ "]"
  | .object fields => "\x7b\n" ++ prettyFields (level + 1) fields ++ "\n" ++ indent level ++ "\x7d"
  | .null => "null"
  | .bool b => if b then "true" else "false"
  | .number n => n.render
  | .string s => quote s

/-- Array elements one per line at `level`. -/
def prettyItems (level : Nat) : List Value → String
  | [] => ""
  | [v] => indent level ++ prettyAt level v
  | v :: rest => indent level ++ prettyAt level v ++ ",\n" ++ prettyItems level rest

/-- Object members one per line at `level`. -/
def prettyFields (level : Nat) : List (String × Value) → String
  | [] => ""
  | [(k, v)] => indent level ++ quote k ++ ": " ++ prettyAt level v
  | (k, v) :: rest =>
    indent level ++ quote k ++ ": " ++ prettyAt level v ++ ",\n" ++ prettyFields level rest

end

/-- A value as indented JSON text. -/
def pretty (v : Value) : String := v.prettyAt 0

end Value

end BlockProgram.Json
