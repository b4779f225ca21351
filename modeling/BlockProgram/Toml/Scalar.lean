import BlockProgram.Toml.Reader
import BlockProgram.Decimal.Rounding

/-! # TOML strings, numbers and date-times

Strings come in four forms. A basic string `"…"` takes escapes (`\b \t \n \f \r \" \\`,
`\uXXXX`, `\UXXXXXXXX` naming a Unicode scalar value); a literal string `'…'` takes none.
Both stay on one line and refuse control characters other than tab. The multi-line forms
`"""…"""` and `'''…'''` drop a line end right after the opening quotes, keep the others
as `\n`, hold up to two quotes in a row, and end at the first run of three or more quotes,
of which up to two more belong to the string. In the multi-line basic form a backslash at
the end of a line drops the line end and all blanks and line ends after it.

Numbers and date-times are recognised by trying their forms in turn on the text ahead
(`Scan`): a date-time, then a float, then an integer. A form that does not start here
leaves room for the next; one that starts but goes wrong fails the document. Integers
have no leading zeros, take single underscores between digits and must fit 64 bits;
hexadecimal, octal and binary integers take no sign. A float is an integer part with a
fraction, an exponent or both, or `inf` or `nan` with an optional sign; a decimal that
rounds to positive infinity is refused. Dates and times are checked against the calendar
and the clock, seconds up to 60.
-/

namespace BlockProgram.Toml

/-- The outcome of trying one form of value at the front of a text. -/
inductive Scan (α : Type) where
  /-- The text does not start with this form; another may be tried. -/
  | absent
  /-- The form starts here but is malformed or out of range. -/
  | failed (e : ParseError)
  /-- The value, and the text after it. -/
  | found (a : α) (rest : List Char)

namespace Scalar

open Reader

/-- Whether a character is a decimal digit. -/
def isDigit (c : Char) : Bool := '0' ≤ c && c ≤ '9'

/-- The value of a digit of base 2 to 16, in either case. -/
def digitValue (c : Char) : Nat :=
  if isDigit c then c.toNat - '0'.toNat
  else if 'a' ≤ c && c ≤ 'f' then c.toNat - 'a'.toNat + 10
  else c.toNat - 'A'.toNat + 10

/-- Whether a character is a hexadecimal digit. -/
def isHexDigit (c : Char) : Bool := isDigit c || ('a' ≤ c && c ≤ 'f') || ('A' ≤ c && c ≤ 'F')

/-- The number that the digits spell in a base. -/
def numeral (base : Nat) (digits : List Char) : Nat :=
  digits.foldl (fun n c => base * n + digitValue c) 0

/-- Whether a character may stand unescaped in a single-line basic string. -/
def isBasicChar (c : Char) : Bool :=
  c == '\t' || (0x20 ≤ c.toNat && c.toNat != 0x7F && c != '"' && c != '\\')

/-- Whether a character may stand in a single-line literal string. -/
def isLiteralChar (c : Char) : Bool :=
  c == '\t' || (0x20 ≤ c.toNat && c.toNat != 0x7F && c != '\'')

/-- The character of a `\u` or `\U` escape with `n` hexadecimal digits, which must name a
Unicode scalar value. -/
def hexEscape (n : Nat) : Reader Char := do
  let digits := (← get).take n
  if digits.length == n && digits.all isHexDigit then
    modify (·.drop n)
    let v := numeral 16 digits
    if v < 0xD800 || (0xDFFF < v && v ≤ 0x10FFFF) then return Char.ofNat v
    else throw .badEscape
  else throw .badEscape

/-- The character of an escape, read after its backslash. -/
def escape : Reader Char := do
  let c ← peek
  eat
  match c with
  | some 'b' => return '\x08'
  | some 't' => return '\t'
  | some 'n' => return '\n'
  | some 'f' => return '\x0c'
  | some 'r' => return '\r'
  | some '"' => return '"'
  | some '\\' => return '\\'
  | some 'u' => hexEscape 4
  | some 'U' => hexEscape 8
  | _ => throw .badEscape

/-- The rest of a single-line basic string after its opening quote, `acc` holding what was
read, last first. -/
def basicBody : Nat → List Char → Reader String
  | 0, _ => throw .unexpected
  | fuel + 1, acc => do
    match ← peek with
    | some '"' => eat; return String.ofList acc.reverse
    | some '\\' => eat; basicBody fuel ((← escape) :: acc)
    | some c => if isBasicChar c then do eat; basicBody fuel (c :: acc) else throw .unexpected
    | none => throw .unexpected

/-- The rest of a single-line literal string after its opening quote. -/
def literalBody : Reader String := do
  let cs ← get
  let body := cs.takeWhile isLiteralChar
  match cs.drop body.length with
  | '\'' :: rest => set rest; return String.ofList body
  | _ => throw .unexpected

/-- The number of copies of `c` at the front of a text. -/
def runLength (c : Char) (cs : List Char) : Nat := (cs.takeWhile (· == c)).length

/-- Drops blanks and line ends, as after a backslash that ends a line. -/
def dropBlankLines : List Char → List Char
  | ' ' :: rest | '\t' :: rest | '\n' :: rest => dropBlankLines rest
  | '\r' :: '\n' :: rest => dropBlankLines rest
  | cs => cs

/-- Whether a backslash is followed by blanks and a line end. -/
def endsLine (cs : List Char) : Bool :=
  match cs.dropWhile isBlank with
  | '\n' :: _ | '\r' :: '\n' :: _ => true
  | _ => false

/-- The rest of a multi-line string after its opening quotes and first line end: `quote`
is its quote character, and `escapes` tells whether backslashes escape. -/
def multilineBody (quote : Char) (escapes : Bool) (plain : Char → Bool) :
    Nat → List Char → Reader String
  | 0, _ => throw .unexpected
  | fuel + 1, acc => do
    let cs ← get
    match cs with
    | [] => throw .unexpected
    | '\r' :: '\n' :: rest => set rest; multilineBody quote escapes plain fuel ('\n' :: acc)
    | '\n' :: rest => set rest; multilineBody quote escapes plain fuel ('\n' :: acc)
    | c :: rest =>
      if c == quote then
        let q := runLength quote cs
        if q < 3 then
          set (cs.drop q)
          multilineBody quote escapes plain fuel (List.replicate q quote ++ acc)
        else
          set (cs.drop (min q 5))
          return String.ofList (List.replicate (min q 5 - 3) quote ++ acc).reverse
      else if escapes && c == '\\' then
        if endsLine rest then
          set (dropBlankLines rest)
          multilineBody quote escapes plain fuel acc
        else
          set rest
          multilineBody quote escapes plain fuel ((← escape) :: acc)
      else if plain c then
        set rest
        multilineBody quote escapes plain fuel (c :: acc)
      else throw .unexpected

/-- A line end right after the opening quotes of a multi-line string is dropped. -/
def dropFirstNewline : List Char → List Char
  | '\n' :: rest => rest
  | '\r' :: '\n' :: rest => rest
  | cs => cs

/-- Reads a string in any of its four forms. -/
def string : Reader String := do
  match ← get with
  | '"' :: '"' :: '"' :: rest =>
    set (dropFirstNewline rest)
    multilineBody '"' true (fun c => isBasicChar c || c == '"') (← budget) []
  | '"' :: rest => set rest; basicBody (← budget) []
  | '\'' :: '\'' :: '\'' :: rest =>
    set (dropFirstNewline rest)
    multilineBody '\'' false isLiteralChar (← budget) []
  | '\'' :: rest => set rest; literalBody
  | _ => throw .unexpected

/-- Reads a string of the forms a key may take: basic or literal, on one line. -/
def keyString : Reader String := do
  match ← get with
  | '"' :: rest => set rest; basicBody (← budget) []
  | '\'' :: rest => set rest; literalBody
  | _ => throw .unexpected

/-! ## Dates and times -/

/-- Two decimal digits at the front of a text, as a number. -/
def twoDigits : List Char → Option (Nat × List Char)
  | a :: b :: rest => if isDigit a && isDigit b then some (10 * digitValue a + digitValue b, rest)
    else none
  | _ => none

/-- Whether a year of the Gregorian calendar has a 29th of February. -/
def isLeapYear (y : Nat) : Bool := y % 4 == 0 && (y % 100 != 0 || y % 400 == 0)

/-- The number of days of a month. -/
def daysIn (year month : Nat) : Nat :=
  if month == 2 then (if isLeapYear year then 29 else 28)
  else if month == 4 || month == 6 || month == 9 || month == 11 then 30
  else 31

/-- A time of day `hh:mm:ss` with an optional fraction of a second. An hour out of range
means no time starts here; after `hh:` the rest must follow. -/
def scanTime (cs : List Char) : Scan Unit :=
  match twoDigits cs with
  | some (h, ':' :: rest) =>
    if h > 23 then .absent
    else match twoDigits rest with
      | some (m, ':' :: rest) =>
        if m > 59 then .failed .outOfRange
        else match twoDigits rest with
          | some (s, rest) =>
            if s > 60 then .failed .outOfRange
            else match rest with
              | '.' :: d :: more => if isDigit d then .found () (more.dropWhile isDigit)
                else .found () rest
              | _ => .found () rest
          | none => .failed .unexpected
      | _ => .failed .unexpected
  | _ => .absent

/-- An optional offset after a date and time: `Z`, or a sign with `hh:mm`. -/
def scanOffset (cs : List Char) : Scan Unit :=
  match cs with
  | 'Z' :: rest | 'z' :: rest => .found () rest
  | '+' :: rest | '-' :: rest =>
    match twoDigits rest with
    | some (h, ':' :: rest) =>
      match twoDigits rest with
      | some (m, rest) => if h > 23 || m > 59 then .failed .outOfRange else .found () rest
      | none => .failed .unexpected
    | _ => .failed .unexpected
  | _ => .found () cs

/-- A date `yyyy-mm-dd`; after `yyyy-` the rest must follow and name a day of the
calendar. -/
def scanDate (cs : List Char) : Scan Unit :=
  match cs with
  | a :: b :: c :: d :: '-' :: rest =>
    if [a, b, c, d].all isDigit then
      let year := numeral 10 [a, b, c, d]
      match twoDigits rest with
      | some (month, '-' :: rest) =>
        if month < 1 || month > 12 then .failed .outOfRange
        else match twoDigits rest with
          | some (day, rest) =>
            if day < 1 || day > daysIn year month then .failed .outOfRange else .found () rest
          | none => .failed .unexpected
      | _ => .failed .unexpected
    else .absent
  | _ => .absent

/-- A date-time in one of its four forms: a date, optionally followed by `T`, `t` or a
space, a time and an offset; or a time alone. -/
def scanDatetime (cs : List Char) : Scan Unit :=
  match scanDate cs with
  | .found () rest =>
    match rest with
    | d :: more =>
      if d == 'T' || d == 't' || d == ' ' then
        match scanTime more with
        | .found () rest => scanOffset rest
        | .absent => .found () (d :: more)
        | .failed e => .failed e
      else .found () rest
    | [] => .found () []
  | .absent => scanTime cs
  | .failed e => .failed e

/-! ## Numbers -/

/-- A sign at the front of a text: whether it is a minus, and the text after it. -/
def sign : List Char → Bool × List Char
  | '-' :: rest => (true, rest)
  | '+' :: rest => (false, rest)
  | cs => (false, cs)

/-- More digits after a first one, a single underscore allowed between two digits; `acc`
holds the digits read, last first. -/
def digitRun (isD : Char → Bool) : List Char → List Char → Scan (List Char)
  | acc, c :: rest =>
    if isD c then digitRun isD (c :: acc) rest
    else if c == '_' then
      match rest with
      | d :: more => if isD d then digitRun isD (d :: acc) more else .failed .unexpected
      | [] => .failed .unexpected
    else .found acc.reverse (c :: rest)
  | acc, [] => .found acc.reverse []

/-- The digits of an unsigned decimal integer: `0`, or digits not starting with `0`. -/
def unsignedDigits : List Char → Scan (List Char)
  | '0' :: rest => .found ['0'] rest
  | c :: rest => if '1' ≤ c && c ≤ '9' then digitRun isDigit [c] rest else .absent
  | [] => .absent

/-- Digits that may start with `0`, as in a fraction or an exponent. -/
def zeroPrefixable : List Char → Scan (List Char)
  | c :: rest => if isDigit c then digitRun isDigit [c] rest else .absent
  | [] => .absent

/-- The exponent of a float after its `e`: an optional sign and digits. -/
def scanExponent (cs : List Char) : Scan Int :=
  let (negative, afterSign) := sign cs
  match zeroPrefixable afterSign with
  | .found ds rest =>
    let e : Int := numeral 10 ds
    .found (if negative then -e else e) rest
  | _ => .failed .unexpected

/-- The fraction digits and exponent of a float, after its integer part. -/
def scanFloatTail (cs : List Char) : Scan (List Char × Int) :=
  match cs with
  | '.' :: rest =>
    match zeroPrefixable rest with
    | .found frac rest =>
      match rest with
      | 'e' :: more | 'E' :: more =>
        match scanExponent more with
        | .found e rest => .found (frac, e) rest
        | .failed err => .failed err
        | .absent => .failed .unexpected
      | _ => .found (frac, 0) rest
    | _ => .failed .unexpected
  | 'e' :: rest | 'E' :: rest =>
    match scanExponent rest with
    | .found e rest => .found ([], e) rest
    | .failed err => .failed err
    | .absent => .failed .unexpected
  | _ => .absent

/-- A float: `inf` or `nan` with an optional sign, or a decimal with a fraction, an
exponent or both, read to the nearest double. -/
def scanFloat (cs : List Char) : Scan Float :=
  let (negative, afterSign) := sign cs
  match afterSign with
  | 'i' :: 'n' :: 'f' :: rest => .found (if negative then -1.0 / 0.0 else 1.0 / 0.0) rest
  | 'n' :: 'a' :: 'n' :: rest => .found (0.0 / 0.0) rest
  | _ =>
    match unsignedDigits afterSign with
    | .found whole rest =>
      match scanFloatTail rest with
      | .found (frac, e) rest =>
        let f := Decimal.ofDecimal negative (numeral 10 (whole ++ frac)) (e - frac.length)
        if f.isInf && f > 0 then .failed .outOfRange else .found f rest
      | .absent => .absent
      | .failed err => .failed err
    | .absent => .absent
    | .failed err => .failed err

/-- The largest 64-bit signed integer. -/
def i64Max : Nat := Nat.pow 2 63 - 1

/-- An unsigned integer in base 16, 8 or 2 after its prefix. -/
def scanRadix (base : Nat) (isD : Char → Bool) (cs : List Char) : Scan Int :=
  match cs with
  | c :: rest =>
    if isD c then
      match digitRun isD [c] rest with
      | .found ds rest =>
        let v := numeral base ds
        if v > i64Max then .failed .outOfRange else .found (v : Int) rest
      | .failed e => .failed e
      | .absent => .failed .unexpected
    else .failed .unexpected
  | [] => .failed .unexpected

/-- An integer: `0x`, `0o` or `0b` and digits of that base, or a signed decimal. -/
def scanInteger (cs : List Char) : Scan Int :=
  match cs with
  | '0' :: 'x' :: rest => scanRadix 16 isHexDigit rest
  | '0' :: 'o' :: rest => scanRadix 8 (fun c => '0' ≤ c && c ≤ '7') rest
  | '0' :: 'b' :: rest => scanRadix 2 (fun c => c == '0' || c == '1') rest
  | _ =>
    let (negative, afterSign) := sign cs
    match unsignedDigits afterSign with
    | .found ds rest =>
      let v := numeral 10 ds
      if negative then
        if v > i64Max + 1 then .failed .outOfRange else .found (-(v : Int)) rest
      else if v > i64Max then .failed .outOfRange else .found (v : Int) rest
    | .failed e => .failed e
    | .absent => .failed .unexpected

/-- The text a scan read: the front of `cs` up to `rest`. -/
def scanned (cs rest : List Char) : String := String.ofList (cs.take (cs.length - rest.length))

/-- Reads a number or a date-time, trying a date-time, a float and an integer in turn. -/
def numberOrDatetime : Reader Value := do
  let cs ← get
  let datetime : Scan Unit :=
    match cs with
    | c :: _ => if isDigit c then scanDatetime cs else .absent
    | [] => .absent
  match datetime with
  | .found () rest => set rest; return .datetime (scanned cs rest)
  | .failed e => throw e
  | .absent =>
    match scanFloat cs with
    | .found f rest => set rest; return .float f
    | .failed e => throw e
    | .absent =>
      match scanInteger cs with
      | .found n rest => set rest; return .integer n
      | .failed e => throw e
      | .absent => throw .unexpected

/-- Reads a value that is neither an array nor an inline table: a string, a boolean, a
number or a date-time. -/
def scalar : Reader Value := do
  match ← get with
  | '"' :: _ | '\'' :: _ => return .string (← string)
  | 't' :: 'r' :: 'u' :: 'e' :: rest => set rest; return .boolean true
  | 'f' :: 'a' :: 'l' :: 's' :: 'e' :: rest => set rest; return .boolean false
  | c :: _ =>
    if isDigit c || c == '+' || c == '-' || c == 'i' || c == 'n' then numberOrDatetime
    else throw .unexpected
  | [] => throw .unexpected

end Scalar

end BlockProgram.Toml
