import BlockProgram.Json.Value
import BlockProgram.Decimal.Rounding

/-! # Reading JSON text

A `Reader` consumes a prefix of the remaining characters and fails with a `ReadError`
at the first fault. Faults fall in three classes (`Category`): malformed text (`malformed`),
text that ends too early (`eof`), and well-formed text of the wrong shape (`data`).

The readers here decide which fault a text shows first, so they read exactly as far as
needed: a typed reader that meets a value of the wrong kind still scans that value to its
end, since a malformed number or string there is a syntax fault rather than a shape fault.
Numbers keep three classes: integers below `2 ^ 64`, negative integers from `-2 ^ 63`, and
floats. A float is its significand times a power of ten, multiplied or divided in double
arithmetic by the power from a table of `10 ^ 0` to `10 ^ 308` (`Reader.scaledFloat`);
results beyond the largest double are a syntax fault. Containers nest at most 127 deep
where values are built; skipped values have no limit.

Every loop here runs on fuel taken from the length of the remaining text: each round
consumes at least one character, so the fuel never runs out on its own.
-/

namespace BlockProgram.Json

/-- The class of a reading fault. -/
inductive Category where
  /-- Malformed text. -/
  | malformed
  /-- The text ends before the value does. -/
  | eof
  /-- Well-formed text of the wrong shape. -/
  | data
  deriving DecidableEq, Repr

/-- Why a text could not be read. -/
inductive ReadError where
  /-- The text ends inside an array. -/
  | eofWhileParsingList
  /-- The text ends inside an object. -/
  | eofWhileParsingObject
  /-- The text ends inside a string. -/
  | eofWhileParsingString
  /-- The text ends where a value should start or continue. -/
  | eofWhileParsingValue
  /-- A key is not followed by a colon. -/
  | expectedColon
  /-- An array element is followed by something other than a comma or `]`. -/
  | expectedListCommaOrEnd
  /-- An object member is followed by something other than a comma or `}`. -/
  | expectedObjectCommaOrEnd
  /-- `null`, `true` or `false` is misspelt. -/
  | expectedSomeIdent
  /-- No value starts here. -/
  | expectedSomeValue
  /-- A backslash escape is not one of JSON's. -/
  | invalidEscape
  /-- A number is malformed. -/
  | invalidNumber
  /-- A number is beyond the largest double. -/
  | numberOutOfRange
  /-- A string holds a raw control character. -/
  | controlCharacterWhileParsingString
  /-- An object key is not a string. -/
  | keyMustBeAString
  /-- A `\u` escape holds a surrogate that is not the first of a pair. -/
  | loneLeadingSurrogateInHexEscape
  /-- A comma stands before a closing bracket. -/
  | trailingComma
  /-- Something follows the complete value. -/
  | trailingCharacters
  /-- The first surrogate of a pair is not followed by a `\u` escape. -/
  | unexpectedEndOfHexEscape
  /-- Containers nest too deep. -/
  | recursionLimitExceeded
  /-- A value has the wrong kind. -/
  | invalidType (expected : String)
  /-- A required field is missing. -/
  | missingField (name : String)
  /-- A field occurs twice. -/
  | duplicateField (name : String)
  /-- An array stands for a record but has too few elements. -/
  | invalidLength (count : Nat)
  deriving DecidableEq, Repr

/-- The class of a fault. -/
def ReadError.category : ReadError → Category
  | .eofWhileParsingList | .eofWhileParsingObject | .eofWhileParsingString
  | .eofWhileParsingValue => .eof
  | .invalidType _ | .missingField _ | .duplicateField _ | .invalidLength _ => .data
  | _ => .malformed

/-- The name of a fault class. -/
def Category.name : Category → String
  | .malformed => "syntax"
  | .eof => "eof"
  | .data => "data"

/-- A reader of JSON text: it consumes a prefix of the remaining characters. -/
abbrev Reader := StateT (List Char) (Except ReadError)

namespace Reader

/-- The blanks JSON allows between tokens. -/
def isBlank (c : Char) : Bool := c == ' ' || c == '\n' || c == '\t' || c == '\r'

/-- Whether `c` is a decimal digit. -/
def isDigit (c : Char) : Bool := '0' ≤ c && c ≤ '9'

/-- The value of a decimal digit. -/
def digitValue (c : Char) : Nat := c.toNat - '0'.toNat

/-- The value of a hexadecimal digit. -/
def hexValue (c : Char) : Option Nat :=
  if '0' ≤ c ∧ c ≤ '9' then some (c.toNat - '0'.toNat)
  else if 'a' ≤ c ∧ c ≤ 'f' then some (c.toNat - 'a'.toNat + 10)
  else if 'A' ≤ c ∧ c ≤ 'F' then some (c.toNat - 'A'.toNat + 10)
  else none

/-- The next character, without consuming it. -/
def peek : Reader (Option Char) := do return (← get).head?

/-- Consumes one character. -/
def eat : Reader Unit := modify List.tail

/-- Consumes and returns the next character. -/
def next : Reader (Option Char) := do
  match ← get with
  | [] => return none
  | c :: rest => set rest; return some c

/-- Skips blanks and looks at the next character. -/
def peekBlank : Reader (Option Char) := do
  modify (List.dropWhile isBlank)
  peek

/-- Consumes the given letters, the rest of `null`, `true` or `false`. -/
def ident : List Char → Reader Unit
  | [] => pure ()
  | c :: cs => do
    match ← next with
    | none => throw .eofWhileParsingValue
    | some d => if d = c then ident cs else throw .expectedSomeIdent

/-- Fuel for a loop over the remaining text: one round per character, and one more. -/
def budget : Reader Nat := do return (← get).length + 1

/-! ## Numbers -/

/-- The largest 64-bit unsigned integer. -/
def u64Max : Nat := Nat.pow 2 64 - 1

/-- The largest 32-bit signed integer. -/
def i32Max : Int := Int.pow 2 31 - 1

/-- Clamps an exponent to the 32-bit signed range, as a saturating sum does. -/
def saturate (x : Int) : Int := max (-Int.pow 2 31) (min i32Max x)

/-- The powers of ten `10 ^ 0` to `10 ^ 308`, each the double nearest to it. -/
def powersOfTen : Array Float := (List.range 309).toArray.map fun i => Decimal.ofNat (Nat.pow 10 i)

/-- The float `± significand · 10 ^ exponent` in double arithmetic: the significand is
rounded to a double and then multiplied, or divided, by the tabled power of ten. Exponents
beyond the table first divide by `10 ^ 308` until they fit, or give zero once the quotient
vanishes; a positive exponent beyond the table, or a product that overflows, is
`numberOutOfRange`. The division steps end within four rounds, since `10 ^ 308` takes any
significand below `2 ^ 64` to zero in three. -/
def scaledFloat (positive : Bool) (significand : Nat) (exponent : Int) : Except ReadError Float :=
  let rec go : Nat → Float → Int → Except ReadError Float
    | 0, f, _ => .ok f
    | fuel + 1, f, e =>
      match powersOfTen[e.natAbs]? with
      | some p =>
        if e ≥ 0 then
          let g := f * p
          if g.isInf then .error .numberOutOfRange else .ok g
        else .ok (f / p)
      | none =>
        if f == 0 then .ok f
        else if e ≥ 0 then .error .numberOutOfRange
        else go fuel (f / 1e308) (e + 308)
  (go 8 (Decimal.ofNat significand) exponent).map fun f => if positive then f else -f

/-- Whether appending digit `d` to `n` passes the bound `max`. -/
def overflows (n d max : Nat) : Bool := n * 10 + d > max

/-- Whether appending digit `d` to `n` passes the largest 32-bit signed integer. -/
def overflows32 (n : Int) (d : Nat) : Bool := n * 10 + d > i32Max

/-- Skips decimal digits. -/
def skipDigits : Reader Unit := modify (List.dropWhile isDigit)

/-- After an exponent grew past the 32-bit range: a positive exponent of a non-zero
significand is out of range, anything else is a zero of the right sign. -/
def exponentOverflow (positive zeroSignificand positiveExp : Bool) : Reader Float := do
  if !zeroSignificand && positiveExp then throw .numberOutOfRange
  skipDigits
  return if positive then 0.0 else -0.0

/-- The digits of an exponent after its first, accumulated with the 32-bit bound. -/
def exponentDigits (positive zeroSignificand positiveExp : Bool) :
    Nat → Int → Reader (Option Float × Int)
  | 0, e => return (none, e)
  | fuel + 1, e => do
    match ← peek with
    | some c =>
      if isDigit c then
        eat
        if overflows32 e (digitValue c) then
          return (some (← exponentOverflow positive zeroSignificand positiveExp), e)
        else exponentDigits positive zeroSignificand positiveExp fuel (e * 10 + digitValue c)
      else return (none, e)
    | none => return (none, e)

/-- Reads an exponent after `e` or `E` and builds the float. -/
def exponentPart (positive : Bool) (significand : Nat) (start : Int) : Reader Float := do
  eat
  let positiveExp ← do
    match ← peek with
    | some '+' => eat; pure true
    | some '-' => eat; pure false
    | _ => pure true
  match ← next with
  | none => throw .eofWhileParsingValue
  | some c =>
    if !isDigit c then throw .invalidNumber
    let (early, e) ← exponentDigits positive (significand == 0) positiveExp (← budget)
      (digitValue c)
    match early with
    | some f => return f
    | none =>
      let final := saturate (if positiveExp then start + e else start - e)
      match scaledFloat positive significand final with
      | .ok f => return f
      | .error err => throw err

/-- Builds the float, or reads an exponent first if one follows. -/
def floatEnd (positive : Bool) (significand : Nat) (exponent : Int) : Reader Float := do
  match ← peek with
  | some 'e' | some 'E' => exponentPart positive significand exponent
  | _ =>
    match scaledFloat positive significand exponent with
    | .ok f => return f
    | .error err => throw err

/-- The digits after a decimal point: each joins the significand until it would pass
`2 ^ 64 - 1`; from there on digits are read and dropped. Returns the significand and the
count of digits that joined it. -/
def fractionDigits : Nat → Nat → Nat → Bool → Reader (Nat × Nat × Bool)
  | 0, n, k, full => return (n, k, full)
  | fuel + 1, n, k, full => do
    match ← peek with
    | some c =>
      if isDigit c then
        eat
        if full || overflows n (digitValue c) u64Max then fractionDigits fuel n k true
        else fractionDigits fuel (n * 10 + digitValue c) (k + 1) false
      else return (n, k, full)
    | none => return (n, k, full)

/-- Reads a decimal point and the digits after it, then the exponent if any. -/
def fractionPart (positive : Bool) (significand : Nat) (exponent : Int) : Reader Float := do
  eat
  let (n, k, full) ← fractionDigits (← budget) significand 0 false
  if k = 0 && !full then
    match ← peek with
    | some _ => throw .invalidNumber
    | none => throw .eofWhileParsingValue
  floatEnd positive n (exponent - k)

/-- Digits of an integer part beyond `2 ^ 64 - 1`: they only raise the exponent. -/
def longIntegerPart (positive : Bool) (significand : Nat) : Reader Float := do
  let cs ← get
  let extra := (cs.takeWhile isDigit).length
  set (cs.dropWhile isDigit)
  match ← peek with
  | some '.' => fractionPart positive significand extra
  | _ => floatEnd positive significand extra

/-- The digits of an integer part after its first, accumulated while they fit in 64 bits. -/
def integerDigits (positive : Bool) : Nat → Nat → Reader (Number ⊕ Nat)
  | 0, n => return .inr n
  | fuel + 1, n => do
    match ← peek with
    | some c =>
      if isDigit c then
        if overflows n (digitValue c) u64Max then
          return .inl (.float (← longIntegerPart positive n))
        else
          eat
          integerDigits positive fuel (n * 10 + digitValue c)
      else return .inr n
    | none => return .inr n

/-- What follows a complete integer part: a fraction, an exponent, or nothing. A negative
integer is `neg` from `-2 ^ 63` on; `-0` and integers below `-2 ^ 63` are floats. -/
def numberEnd (positive : Bool) (n : Nat) : Reader Number := do
  match ← peek with
  | some '.' => return .float (← fractionPart positive n 0)
  | some 'e' | some 'E' => return .float (← exponentPart positive n 0)
  | _ =>
    if positive then return .nat n
    else if n = 0 then return .float (-0.0)
    else if n ≤ Nat.pow 2 63 then return .neg (-(n : Int))
    else return .float (-(Decimal.ofNat n))

/-- Reads a number after its sign. -/
def number (positive : Bool) : Reader Number := do
  match ← next with
  | none => throw .eofWhileParsingValue
  | some '0' =>
    match ← peek with
    | some c => if isDigit c then throw .invalidNumber else numberEnd positive 0
    | none => numberEnd positive 0
  | some c =>
    if isDigit c then
      match ← integerDigits positive (← budget) (digitValue c) with
      | .inl num => return num
      | .inr n => numberEnd positive n
    else throw .invalidNumber

/-- Skips an exponent after `e` or `E`, checking only its form. -/
def skipExponent : Reader Unit := do
  eat
  match ← peek with
  | some '+' | some '-' => eat
  | _ => pure ()
  match ← next with
  | some c => if isDigit c then skipDigits else throw .invalidNumber
  | none => throw .invalidNumber

/-- Skips a number after its sign, checking only its form. -/
def skipNumber : Reader Unit := do
  match ← next with
  | some '0' =>
    match ← peek with
    | some c => if isDigit c then throw .invalidNumber
    | none => pure ()
  | some c => if isDigit c then skipDigits else throw .invalidNumber
  | none => throw .invalidNumber
  match ← peek with
  | some '.' =>
    eat
    let cs ← get
    if !(cs.head?.map isDigit).getD false then throw .invalidNumber
    skipDigits
    match ← peek with
    | some 'e' | some 'E' => skipExponent
    | _ => pure ()
  | some 'e' | some 'E' => skipExponent
  | _ => pure ()

/-! ## Strings -/

/-- Reads four hexadecimal digits of a `\u` escape. Fewer than four bytes of text left is
the end of the text; four that are not all hexadecimal digits are a bad escape. -/
def hex4 : Reader Nat := do
  let cs ← get
  let value := match cs with
    | a :: b :: c :: d :: _ =>
      match hexValue a, hexValue b, hexValue c, hexValue d with
      | some w, some x, some y, some z => some (w * 4096 + x * 256 + y * 16 + z)
      | _, _, _, _ => none
    | _ => none
  match value with
  | some n => set (cs.drop 4); return n
  | none =>
    if ((cs.take 4).map Char.utf8Size).foldr (· + ·) 0 < 4 then throw .eofWhileParsingString
    else throw .invalidEscape

/-- Whether `n` is the first half of a surrogate pair. -/
def isLeadSurrogate (n : Nat) : Bool := 0xD800 ≤ n && n ≤ 0xDBFF

/-- Whether `n` is the second half of a surrogate pair. -/
def isTrailSurrogate (n : Nat) : Bool := 0xDC00 ≤ n && n ≤ 0xDFFF

/-- The character of a code point; a lone surrogate, which text cannot hold, becomes the
replacement character. -/
def codePoint (n : Nat) : Char :=
  if n < 0xD800 ∨ (0xDFFF < n ∧ n < 0x110000) then Char.ofNat n else '\uFFFD'

/-- The character of a simple escape letter. -/
def simpleEscape : Char → Option Char
  | '"' => some '"'
  | '\\' => some '\\'
  | '/' => some '/'
  | 'b' => some '\x08'
  | 'f' => some '\x0c'
  | 'n' => some '\n'
  | 'r' => some '\r'
  | 't' => some '\t'
  | _ => none

/-- After a first surrogate: the rest of the pair, as checked text requires it. -/
def surrogatePair (lead : Nat) : Reader Char := do
  match ← peek with
  | none => throw .eofWhileParsingString
  | some '\\' => eat
  | some _ => eat; throw .unexpectedEndOfHexEscape
  match ← peek with
  | none => throw .eofWhileParsingString
  | some 'u' => eat
  | some _ => eat; throw .unexpectedEndOfHexEscape
  let trail ← hex4
  if !isTrailSurrogate trail then throw .loneLeadingSurrogateInHexEscape
  return codePoint ((lead - 0xD800) * 1024 + (trail - 0xDC00) + 0x10000)

/-- Reads an escape after its backslash in checked text, where surrogates must pair. -/
def escape : Reader Char := do
  match ← next with
  | none => throw .eofWhileParsingString
  | some 'u' =>
    let n ← hex4
    if isTrailSurrogate n then throw .loneLeadingSurrogateInHexEscape
    if isLeadSurrogate n then surrogatePair n else return codePoint n
  | some c =>
    match simpleEscape c with
    | some d => return d
    | none => throw .invalidEscape

/-- Reads an escape after its backslash in unchecked text, where a surrogate may stand
alone; only the form of the escape is checked. -/
def uncheckedEscape : Nat → Reader Unit
  | 0 => pure ()
  | fuel + 1 => do
    match ← next with
    | none => throw .eofWhileParsingString
    | some 'u' =>
      let n ← hex4
      uncheckedPair fuel n
    | some c => if (simpleEscape c).isNone then throw .invalidEscape
where
  /-- After a code point `n` of a `\u` escape: a first surrogate may take a second one. -/
  uncheckedPair : Nat → Nat → Reader Unit
    | 0, _ => pure ()
    | fuel + 1, n => do
      if !isLeadSurrogate n then return
      match ← peek with
      | none => throw .eofWhileParsingString
      | some '\\' => eat
      | some _ => return
      match ← peek with
      | none => throw .eofWhileParsingString
      | some 'u' => eat
      | some _ => uncheckedEscape fuel; return
      let m ← hex4
      if isTrailSurrogate m then return
      uncheckedPair fuel m

/-- The characters of a string after its opening quote, up to and past the closing quote.
Checked text refuses raw control characters and unpaired surrogates. -/
def stringBody (checked : Bool) : Nat → List Char → Reader String
  | 0, acc => return String.ofList acc.reverse
  | fuel + 1, acc => do
    match ← next with
    | none => throw .eofWhileParsingString
    | some '"' => return String.ofList acc.reverse
    | some '\\' =>
      if checked then
        stringBody checked fuel ((← escape) :: acc)
      else
        uncheckedEscape fuel
        stringBody checked fuel acc
    | some c =>
      if checked && c.toNat < 0x20 then throw .controlCharacterWhileParsingString
      stringBody checked fuel (c :: acc)

/-- Reads a checked string after its opening quote. -/
def string : Reader String := do stringBody true (← budget) []

/-- Skips a string after its opening quote: control characters are refused and escapes
must be well formed, but surrogates are not paired. -/
def skipStringBody : Nat → Reader Unit
  | 0 => pure ()
  | fuel + 1 => do
    match ← next with
    | none => throw .eofWhileParsingString
    | some '"' => pure ()
    | some '\\' =>
      match ← next with
      | none => throw .eofWhileParsingString
      | some 'u' => let _ ← hex4; skipStringBody fuel
      | some c => if (simpleEscape c).isNone then throw .invalidEscape else skipStringBody fuel
    | some c =>
      if c.toNat < 0x20 then throw .controlCharacterWhileParsingString
      skipStringBody fuel

/-! ## Values of the wrong kind -/

/-- At a value of the wrong kind: scans it as far as its kind shows (a literal, a number,
a string, or the first bracket of a container) and reports `invalidType`, unless the scan
meets a syntax fault first. -/
def wrongKind (expected : String) : Reader α := do
  match ← peek with
  | some 'n' => eat; ident ['u', 'l', 'l']; throw (.invalidType expected)
  | some 't' => eat; ident ['r', 'u', 'e']; throw (.invalidType expected)
  | some 'f' => eat; ident ['a', 'l', 's', 'e']; throw (.invalidType expected)
  | some '-' => eat; let _ ← number false; throw (.invalidType expected)
  | some '"' => eat; let _ ← stringBody false (← budget) []; throw (.invalidType expected)
  | some '[' | some '{' => throw (.invalidType expected)
  | some c =>
    if isDigit c then
      let _ ← number true
      throw (.invalidType expected)
    else throw .expectedSomeValue
  | none => throw .expectedSomeValue

/-- Looks at the start of the next value; the end of the text is `eofWhileParsingValue`. -/
def valueStart : Reader Char := do
  match ← peekBlank with
  | some c => return c
  | none => throw .eofWhileParsingValue

/-! ## Arrays and objects -/

/-- Whether an array has another element: the first needs nothing before it, later ones a
comma. -/
def hasElement (first : Bool) : Reader Bool := do
  match ← peekBlank with
  | none => throw .eofWhileParsingList
  | some ']' => return false
  | some c =>
    if first then return true
    else if c = ',' then
      eat
      match ← peekBlank with
      | some ']' => throw .trailingComma
      | some _ => return true
      | none => throw .eofWhileParsingValue
    else throw .expectedListCommaOrEnd

/-- The next element of an array, read by `elem`, or `none` at its end. -/
def element (first : Bool) (elem : Reader α) : Reader (Option α) := do
  if ← hasElement first then return some (← elem) else return none

/-- All remaining elements of an array. -/
def elements (elem : Reader α) : Nat → Bool → Reader (List α)
  | 0, _ => return []
  | fuel + 1, first => do
    match ← element first elem with
    | some a => return a :: (← elements elem fuel false)
    | none => return []

/-- Closes an array whose elements were read. -/
def endArray : Reader Unit := do
  match ← peekBlank with
  | some ']' => eat
  | some ',' =>
    eat
    match ← peekBlank with
    | some ']' => throw .trailingComma
    | _ => throw .trailingCharacters
  | some _ => throw .trailingCharacters
  | none => throw .eofWhileParsingList

/-- Whether an object has another member: the first needs nothing before it, later ones
a comma; a member starts with a quoted key. -/
def hasMember (first : Bool) : Reader Bool := do
  match ← peekBlank with
  | none => throw .eofWhileParsingObject
  | some '}' => return false
  | some c =>
    if first then
      if c = '"' then return true else throw .keyMustBeAString
    else if c = ',' then
      eat
      match ← peekBlank with
      | some '"' => return true
      | some '}' => throw .trailingComma
      | some _ => throw .keyMustBeAString
      | none => throw .eofWhileParsingValue
    else throw .expectedObjectCommaOrEnd

/-- The key of the next member, or `none` at the end of the object. -/
def key (first : Bool) : Reader (Option String) := do
  if ← hasMember first then
    eat
    return some (← string)
  else return none

/-- The colon between a key and its value. -/
def colon : Reader Unit := do
  match ← peekBlank with
  | some ':' => eat
  | some _ => throw .expectedColon
  | none => throw .eofWhileParsingObject

/-- Closes an object whose members were read. -/
def endObject : Reader Unit := do
  match ← peekBlank with
  | some '}' => eat
  | some ',' => throw .trailingComma
  | some _ => throw .trailingCharacters
  | none => throw .eofWhileParsingObject

/-- Enters a container whose opening bracket is next, with `depth` levels of nesting
left: the container takes one, and none left is `recursionLimitExceeded`. The body reads
the inside with the levels that remain, and `close` checks the closing bracket. -/
def container (depth : Nat) (body : Nat → Reader α) (close : Reader Unit) : Reader α := do
  match depth with
  | 0 | 1 => throw .recursionLimitExceeded
  | d + 2 =>
    eat
    let a ← body (d + 1)
    close
    return a

/-! ## Whole values -/

/-- The members of an object, each value read by `elem`, into a sorted field list. -/
def members (elem : Reader Value) : Nat → Bool → List (String × Value) →
    Reader (List (String × Value))
  | 0, _, acc => return acc
  | fuel + 1, first, acc => do
    match ← key first with
    | none => return acc
    | some k =>
      colon
      let v ← elem
      members elem fuel false (Value.insertField k v acc)

/-- Reads any value, with `inner` reading the values inside a container, or `none` when
no nesting level is left. -/
def valueWith (inner : Option (Reader Value)) : Reader Value := do
  match ← valueStart with
  | 'n' => eat; ident ['u', 'l', 'l']; return .null
  | 't' => eat; ident ['r', 'u', 'e']; return .bool true
  | 'f' => eat; ident ['a', 'l', 's', 'e']; return .bool false
  | '-' => eat; return .number (← number false)
  | '"' => eat; return .string (← string)
  | '[' =>
    match inner with
    | none => throw .recursionLimitExceeded
    | some elem =>
      eat
      let items ← elements elem (← budget) true
      endArray
      return .array items
  | '{' =>
    match inner with
    | none => throw .recursionLimitExceeded
    | some elem =>
      eat
      let fields ← members elem (← budget) true []
      endObject
      return .object fields
  | c => if isDigit c then return .number (← number true) else throw .expectedSomeValue

/-- Reads any value into a `Value`, with `depth` levels of nesting left: a container takes
one, and entering one with a single level left is `recursionLimitExceeded`. In an object
the last of a repeated key wins and keys are sorted. -/
def value : Nat → Reader Value
  | d + 2 => valueWith (some (value (d + 1)))
  | _ => valueWith none

/-- The nesting levels a reader starts with. -/
def maxDepth : Nat := 128

/-! ## Skipping values -/

/-- After a scalar or a closed container: the comma or the closing brackets that follow,
with the innermost open container `frame` and the ones around it in `outer`. Returns the
container the next value belongs to, or `none` when the outermost one has closed. -/
def afterValue : Nat → Char → List Char → Bool → Reader (Option (Char × List Char))
  | 0, _, _, _ => return none
  | fuel + 1, frame, outer, acceptComma => do
    match ← peekBlank with
    | some c =>
      if acceptComma && c = ',' then
        eat
        return some (frame, outer)
      else if (frame = '[' && c = ']') || (frame = '{' && c = '}') then
        eat
        match outer with
        | [] => return none
        | f :: rest => afterValue fuel f rest true
      else if acceptComma then
        throw (if frame = '[' then .expectedListCommaOrEnd else .expectedObjectCommaOrEnd)
      else return some (frame, outer)
    | none =>
      throw (if frame = '[' then .eofWhileParsingList else .eofWhileParsingObject)

/-- Before a value inside an object: a quoted key and a colon. -/
def skipKey : Reader Unit := do
  match ← peekBlank with
  | some '"' => eat
  | some _ => throw .keyMustBeAString
  | none => throw .eofWhileParsingObject
  skipStringBody (← budget)
  match ← peekBlank with
  | some ':' => eat
  | some _ => throw .expectedColon
  | none => throw .eofWhileParsingObject

/-- Skips values inside the open containers `stack` (innermost first) until all are
closed. Each round skips one scalar or opens one container. -/
def skipLoop : Nat → List Char → Reader Unit
  | 0, _ => pure ()
  | fuel + 1, stack => do
    let opened ← do
      match ← valueStart with
      | 'n' => eat; ident ['u', 'l', 'l']; pure none
      | 't' => eat; ident ['r', 'u', 'e']; pure none
      | 'f' => eat; ident ['a', 'l', 's', 'e']; pure none
      | '-' => eat; skipNumber; pure none
      | '"' => eat; skipStringBody (← budget); pure none
      | '[' => eat; pure (some '[')
      | '{' => eat; pure (some '{')
      | c =>
        if isDigit c then
          skipNumber
          pure none
        else throw .expectedSomeValue
    let next ← do
      match opened, stack with
      | some frame, _ => afterValue (← budget) frame stack false
      | none, [] => pure none
      | none, frame :: outer => afterValue (← budget) frame outer true
    match next with
    | none => pure ()
    | some (frame, outer) =>
      if frame = '{' then skipKey
      skipLoop fuel (frame :: outer)

/-- Skips one value of any shape, checking its form but building nothing. -/
def skip : Reader Unit := do skipLoop (← budget) []

/-- Checks that only blanks follow. -/
def finish : Reader Unit := do
  match ← peekBlank with
  | none => pure ()
  | some _ => throw .trailingCharacters

/-- Runs a reader on a whole text, which must hold nothing after the value but blanks. -/
def run (r : Reader α) (text : String) : Except ReadError α :=
  (do let a ← r; finish; pure a).run' text.toList

end Reader

/-- Reads a text holding one JSON value. -/
def Value.read (text : String) : Except ReadError Value :=
  Reader.run (Reader.value Reader.maxDepth) text

end BlockProgram.Json
