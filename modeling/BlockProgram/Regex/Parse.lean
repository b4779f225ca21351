import BlockProgram.Regex.Syntax

/-! # Reading patterns

The pattern language is that of common regular-expression engines without look-around or
backreferences. A pattern is read left to right, with these rules:

* `(`, `(?:`, `(?P<name>`, `(?<name>` and `(?flags:` open groups; `(?flags)` changes the
  flags up to the end of the enclosing group, across `|` too. Flags are `i` (ignore case),
  `m` (`^` and `$` at line ends), `s` (`.` matches `\n`), `U` (swap greed), `u` (Unicode),
  `R` (`\r\n` line ends) and `x` (blanks and `#` comments are ignored), each at most once,
  with `-` before those to clear.
* `?`, `*`, `+` and `{n}`, `{n,}`, `{n,m}` repeat the item before them, which must exist
  and must not be a flag group; a `?` after them asks for a lazy repetition.
* `\` escapes: `\d \s \w` and their negations, `\p{…}` and `\P{…}` Unicode classes,
  `\x` `\u` `\U` hex code points, `\a \f \t \n \r \v`, the assertions `\A \z \b \B \< \>`
  and `\b{start}` `\b{end}` `\b{start-half}` `\b{end-half}`, and any ASCII punctuation or
  space as itself. Digits (backreferences and octal) and other letters are errors.
* `[…]` classes hold characters, ranges, escapes, `[:name:]` ASCII classes, nested classes,
  and the operators `&&`, `--` and `~~`, all of one precedence and grouping to the left.

Without the Unicode flag, `.`, a negated ASCII class and any class reaching beyond ASCII
are errors, since they could match inside a multi-byte character, as is `\p`.
Reading either yields the compiled `Expr` or fails with a description of the first fault.
-/

namespace BlockProgram.Regex

open BlockProgram.Unicode

/-- The flags in force at a point of a pattern. -/
structure Flags where
  /-- `i`: letters match in either case. -/
  caseless : Bool := false
  /-- `m`: `^` and `$` match at line ends. -/
  multiLine : Bool := false
  /-- `s`: `.` matches `\n` too. -/
  dotAll : Bool := false
  /-- `U`: repetitions are lazy unless marked. -/
  swapGreed : Bool := false
  /-- `u`: classes and case are Unicode-aware. -/
  unicode : Bool := true
  /-- `R`: `\r\n` ends lines. -/
  crlf : Bool := false
  /-- `x`: blanks and `#` comments are ignored. -/
  verbose : Bool := false
  deriving Inhabited, Repr

/-- The reading state: the pattern, the position, the flags in force and the capture names
used so far. -/
structure Cursor where
  /-- The pattern. -/
  input : Array Char
  /-- The position of the current character. -/
  pos : Nat
  /-- The flags in force. -/
  flags : Flags
  /-- The capture group names used so far. -/
  names : List String

/-- A reader of patterns. -/
abbrev Parser := StateT Cursor (Except String)

/-- A zero-width assertion as written. -/
inductive Assertion where
  /-- `^`. -/
  | lineStart
  /-- `$`. -/
  | lineEnd
  /-- `\A`. -/
  | textStart
  /-- `\z`. -/
  | textEnd
  /-- `\b`. -/
  | wordBoundary
  /-- `\B`. -/
  | notWordBoundary
  /-- `\<` or `\b{start}`. -/
  | wordStart
  /-- `\>` or `\b{end}`. -/
  | wordEnd
  /-- `\b{start-half}`. -/
  | wordStartHalf
  /-- `\b{end-half}`. -/
  | wordEndHalf
  deriving DecidableEq, Repr

/-- A Perl class letter. -/
inductive PerlClass where
  /-- `\d`: decimal digits. -/
  | digit
  /-- `\s`: white space. -/
  | space
  /-- `\w`: word characters. -/
  | word
  deriving DecidableEq, Repr

/-- An item read from one character or escape, before the flags give it meaning. -/
inductive Primitive where
  /-- A character; `byte` marks the two-digit `\x` form, which names a byte. -/
  | literal (c : Char) (byte : Bool)
  /-- `.`. -/
  | dot
  /-- An assertion. -/
  | assertion (a : Assertion)
  /-- `\d`, `\s`, `\w` or a negation. -/
  | perl (kind : PerlClass) (negated : Bool)
  /-- A Unicode class, with its code points. -/
  | property (sets : List RangeSet) (negated : Bool)

/-- A set operator inside a class. -/
inductive SetOp where
  /-- `&&`: intersection. -/
  | inter
  /-- `--`: difference. -/
  | diff
  /-- `~~`: symmetric difference. -/
  | symmDiff
  deriving DecidableEq, Repr

/-- A class as written. -/
inductive ClassNode where
  /-- A character, as in `Primitive.literal`. -/
  | literal (c : Char) (byte : Bool)
  /-- A range of characters. -/
  | range (lo hi : Char) (loByte hiByte : Bool)
  /-- A `[:name:]` class, possibly negated. -/
  | ascii (members : List (Nat × Nat)) (negated : Bool)
  /-- A Perl class. -/
  | perl (kind : PerlClass) (negated : Bool)
  /-- A Unicode class. -/
  | property (sets : List RangeSet) (negated : Bool)
  /-- A nested bracketed class. -/
  | bracket (negated : Bool) (body : ClassNode)
  /-- The union of items. -/
  | union (items : List ClassNode)
  /-- A set operation. -/
  | op (o : SetOp) (lhs rhs : ClassNode)

namespace Parser

/-- Stops reading with a fault. -/
def fault (msg : String) : Parser α := throw msg

/-- The current character, if any. -/
def current : Parser (Option Char) := do
  let s ← get
  return s.input[s.pos]?

/-- The character after the current one, if any. -/
def peek : Parser (Option Char) := do
  let s ← get
  return s.input[s.pos + 1]?

/-- Whether the whole pattern has been read. -/
def atEnd : Parser Bool := do
  let s ← get
  return s.input.size ≤ s.pos

/-- Moves past the current character; true when a character follows. -/
def bump : Parser Bool := do
  let s ← get
  if s.pos < s.input.size then set { s with pos := s.pos + 1 }
  return !(← atEnd)

/-- The position after a `#` comment that starts at `pos`, its newline included. -/
def skipComment (input : Array Char) : Nat → Nat → Nat
  | pos, 0 => pos
  | pos, fuel + 1 =>
    match input[pos]? with
    | some '\n' => pos + 1
    | some _ => skipComment input (pos + 1) fuel
    | none => pos

/-- The position after the blanks and comments that start at `pos`. -/
def skipBlank (input : Array Char) : Nat → Nat → Nat
  | pos, 0 => pos
  | pos, fuel + 1 =>
    match input[pos]? with
    | some c =>
      if isWhiteSpace c then skipBlank input (pos + 1) fuel
      else if c == '#' then skipBlank input (skipComment input (pos + 1) input.size) fuel
      else pos
    | none => pos

/-- In verbose mode, moves past blanks and comments. -/
def bumpSpace : Parser Unit := do
  let s ← get
  if s.flags.verbose then set { s with pos := skipBlank s.input s.pos (s.input.size + 1) }

/-- Moves past the current character and then any blanks; true when a character
follows. -/
def bumpAndSpace : Parser Bool := do
  if !(← bump) then return false
  bumpSpace
  return !(← atEnd)

/-- The first character after the current one that is not a blank, in verbose mode (a
comment's first character counts); the next character otherwise. -/
def peekSpace : Parser (Option Char) := do
  let s ← get
  if !s.flags.verbose then return s.input[s.pos + 1]?
  if s.input.size ≤ s.pos then return none
  let rest := (s.input.toList.drop (s.pos + 1))
  let pick := rest.foldl (fun (acc : Option Char × Bool) c =>
    match acc with
    | (some found, inComment) => (some found, inComment)
    | (none, inComment) =>
      if isWhiteSpace c then (none, inComment)
      else if !inComment && c == '#' then (none, true)
      else (some c, inComment)) (none, false)
  return pick.1 <|> s.input[s.pos + 1]?

/-- Moves past `text` when the pattern continues with it. -/
def bumpIf (text : String) : Parser Bool := do
  let s ← get
  let cs := text.toList
  if (s.input.toList.drop s.pos).take cs.length == cs then
    set { s with pos := s.pos + cs.length }
    return true
  else return false

/-- Whether a character is an ASCII hex digit. -/
def isHex (c : Char) : Bool :=
  c.isDigit || ('a' ≤ c && c ≤ 'f') || ('A' ≤ c && c ≤ 'F')

/-- The value of hex digits. -/
def hexValue (ds : List Char) : Nat :=
  ds.foldl (fun n c =>
    16 * n + (if c.isDigit then c.toNat - '0'.toNat
      else if c ≤ 'F' then c.toNat - 'A'.toNat + 10 else c.toNat - 'a'.toNat + 10)) 0

/-- The character with a code point, unless it is a surrogate or too large. -/
def scalar? (n : Nat) : Option Char :=
  if n < 0xD800 ∨ (0xDFFF < n ∧ n ≤ maxCodePoint) then some (Char.ofNat n) else none

/-- Reads a fixed number of hex digits at the current character. -/
def hexDigits : Nat → List Char → Parser (List Char)
  | 0, acc => return acc.reverse
  | k + 1, acc => do
    if !acc.isEmpty then
      if !(← bumpAndSpace) then fault "escape ends early"
    let some c ← current | fault "escape ends early"
    if !isHex c then fault "invalid hex digit"
    hexDigits k (c :: acc)

/-- Reads hex digits up to a closing brace, the opening brace being current. -/
def hexBraced : Nat → List Char → Parser (List Char)
  | 0, _ => fault "escape ends early"
  | fuel + 1, acc => do
    if !(← bumpAndSpace) then fault "escape ends early"
    let some c ← current | fault "escape ends early"
    if c == '}' then return acc.reverse
    if !isHex c then fault "invalid hex digit"
    hexBraced fuel (c :: acc)

/-- Reads a hex escape, its letter (`x`, `u` or `U`) being current. -/
def hexEscape : Parser Primitive := do
  let some letter ← current | fault "escape ends early"
  let width := if letter == 'x' then 2 else if letter == 'u' then 4 else 8
  if !(← bumpAndSpace) then fault "escape ends early"
  if (← current) == some '{' then
    let ds ← hexBraced ((← get).input.size + 1) []
    let _ ← bumpAndSpace
    if ds.isEmpty then fault "empty hex escape"
    let some c := scalar? (hexValue ds) | fault "invalid hex escape"
    return .literal c false
  else
    let ds ← hexDigits width []
    let _ ← bumpAndSpace
    let some c := scalar? (hexValue ds) | fault "invalid hex escape"
    return .literal c (letter == 'x')

/-- Reads characters up to a closing brace, the opening brace being current; returns
them and leaves the brace current. -/
def bracedName : Nat → List Char → Parser (List Char)
  | 0, _ => fault "escape ends early"
  | fuel + 1, acc => do
    if !(← bumpAndSpace) then fault "escape ends early"
    let some c ← current | fault "escape ends early"
    if c == '}' then return acc.reverse
    bracedName fuel (c :: acc)

/-- The index of the first occurrence of `sub` in `s`. -/
def findSub (s sub : List Char) : Option Nat :=
  (List.range (s.length + 1)).find? fun i => (s.drop i).take sub.length == sub

/-- Reads a Unicode class escape, its letter (`p` or `P`) being current. -/
def unicodeClass : Parser Primitive := do
  let negated := (← current) == some 'P'
  if !(← bumpAndSpace) then fault "escape ends early"
  let some c ← current | fault "escape ends early"
  if c == '{' then
    let name ← bracedName ((← get).input.size + 1) []
    let _ ← bump
    let lookup : Option (List RangeSet) × Bool :=
      match findSub name ['!', '='] with
      | some i => (withValue? (String.ofList (name.take i)) (String.ofList (name.drop (i + 2))), true)
      | none =>
        match name.idxOf? ':' <|> name.idxOf? '=' with
        | some i =>
          (withValue? (String.ofList (name.take i)) (String.ofList (name.drop (i + 1))), false)
        | none => (named? (String.ofList name), false)
    let some sets := lookup.1 | fault "unknown Unicode class"
    return .property sets (negated != lookup.2)
  else
    if c == '\\' then fault "invalid Unicode class"
    let _ ← bumpAndSpace
    let some sets := named? (String.singleton c) | fault "unknown Unicode class"
    return .property sets negated

/-- Reads the letters of a special word boundary after `\b`, its brace being current:
`some` the assertion, or `none` (with the brace still current) when the brace starts a
repetition instead. -/
def specialWordBoundary : Parser (Option Assertion) := do
  let isNameChar := fun (c : Char) => c.isAlpha || c == '-'
  let start := (← get).pos
  if !(← bumpAndSpace) then fault "escape ends early"
  let some first ← current | fault "escape ends early"
  if !isNameChar first then
    modify fun s => { s with pos := start }
    return none
  let rec letters : Nat → List Char → Parser (List Char)
    | 0, acc => return acc.reverse
    | fuel + 1, acc => do
      match ← current with
      | some c =>
        if isNameChar c then
          let _ ← bumpAndSpace
          letters fuel (c :: acc)
        else return acc.reverse
      | none => return acc.reverse
  let name ← letters ((← get).input.size + 1) []
  if (← current) != some '}' then fault "unclosed special word boundary"
  let _ ← bump
  match String.ofList name with
  | "start" => return some .wordStart
  | "end" => return some .wordEnd
  | "start-half" => return some .wordStartHalf
  | "end-half" => return some .wordEndHalf
  | _ => fault "unknown special word boundary"

/-- Whether a character is a meta character, which an escape turns into itself. -/
def isMeta (c : Char) : Bool := "\\.+*?()|[]\x7b\x7d^$#&-~".toList.contains c

/-- Whether an escape may turn a character into itself: meta characters, and ASCII
characters other than letters, digits, `<` and `>`. -/
def isEscapable (c : Char) : Bool :=
  isMeta c || (c.toNat < 0x80 && !c.isAlphanum && c != '<' && c != '>')

/-- Reads an escape, its backslash being current. -/
def escape : Parser Primitive := do
  if !(← bump) then fault "pattern ends with a backslash"
  let some c ← current | fault "pattern ends with a backslash"
  if c.isDigit then fault "backreferences are not supported"
  if c == 'x' || c == 'u' || c == 'U' then return ← hexEscape
  if c == 'p' || c == 'P' then return ← unicodeClass
  if "dswDSW".toList.contains c then
    let _ ← bump
    let kind := if c == 'd' || c == 'D' then PerlClass.digit
      else if c == 's' || c == 'S' then .space else .word
    return .perl kind c.isUpper
  let _ ← bump
  if isEscapable c then return .literal c false
  match c with
  | 'a' => return .literal '\x07' false
  | 'f' => return .literal '\x0C' false
  | 't' => return .literal '\t' false
  | 'n' => return .literal '\n' false
  | 'r' => return .literal '\r' false
  | 'v' => return .literal '\x0B' false
  | 'A' => return .assertion .textStart
  | 'z' => return .assertion .textEnd
  | 'b' =>
    if (← current) == some '{' then
      match ← specialWordBoundary with
      | some a => return .assertion a
      | none => return .assertion .wordBoundary
    else return .assertion .wordBoundary
  | 'B' => return .assertion .notWordBoundary
  | '<' => return .assertion .wordStart
  | '>' => return .assertion .wordEnd
  | _ => fault "unrecognized escape"

/-- The members of an ASCII class by name. -/
def asciiClass? : String → Option (List (Nat × Nat))
  | "alnum" => some [(0x30, 0x39), (0x41, 0x5A), (0x61, 0x7A)]
  | "alpha" => some [(0x41, 0x5A), (0x61, 0x7A)]
  | "ascii" => some [(0x00, 0x7F)]
  | "blank" => some [(0x09, 0x09), (0x20, 0x20)]
  | "cntrl" => some [(0x00, 0x1F), (0x7F, 0x7F)]
  | "digit" => some [(0x30, 0x39)]
  | "graph" => some [(0x21, 0x7E)]
  | "lower" => some [(0x61, 0x7A)]
  | "print" => some [(0x20, 0x7E)]
  | "punct" => some [(0x21, 0x2F), (0x3A, 0x40), (0x5B, 0x60), (0x7B, 0x7E)]
  | "space" => some [(0x09, 0x0D), (0x20, 0x20)]
  | "upper" => some [(0x41, 0x5A)]
  | "word" => some [(0x30, 0x39), (0x41, 0x5A), (0x5F, 0x5F), (0x61, 0x7A)]
  | "xdigit" => some [(0x30, 0x39), (0x41, 0x46), (0x61, 0x66)]
  | _ => none

/-- Tries to read `[:name:]` or `[:^name:]` at a `[` inside a class; on failure nothing
is consumed. -/
def asciiItem : Parser (Option ClassNode) := do
  let s ← get
  let rest := s.input.toList.drop s.pos
  match rest with
  | '[' :: ':' :: more =>
    let (negated, more) := match more with
      | '^' :: m => (true, m)
      | m => (false, m)
    let name := more.takeWhile (· != ':')
    let after := more.drop name.length
    match after with
    | ':' :: ']' :: _ =>
      match asciiClass? (String.ofList name) with
      | some members =>
        let used := 2 + (if negated then 1 else 0) + name.length + 2
        set { s with pos := s.pos + used }
        return some (.ascii members negated)
      | none => return none
    | _ => return none
  | _ => return none

/-- A primitive as a class item; assertions and `.` are not allowed in classes. -/
def classItem : Primitive → Parser ClassNode
  | .literal c b => return .literal c b
  | .perl k n => return .perl k n
  | .property s n => return .property s n
  | _ => fault "invalid escape in class"

/-- Reads one class item or range. -/
def classRange : Parser ClassNode := do
  let readOne : Parser Primitive := do
    if (← current) == some '\\' then escape
    else
      let some c ← current | fault "unclosed class"
      let _ ← bump
      return .literal c false
  let first ← readOne
  bumpSpace
  if ← atEnd then fault "unclosed class"
  let next ← peekSpace
  if (← current) != some '-' || next == some ']' || next == some '-' then
    return ← classItem first
  if !(← bumpAndSpace) then fault "unclosed class"
  let second ← readOne
  match first, second with
  | .literal a ab, .literal b bb =>
    if b < a then fault "invalid class range"
    return .range a b ab bb
  | _, _ => fault "class range bounds must be characters"

/-- Combines the operator waiting at a class level with its right operand. -/
def closeOp (pending : Option (SetOp × ClassNode)) (items : List ClassNode) : ClassNode :=
  match pending with
  | some (o, lhs) => .op o lhs (.union items.reverse)
  | none => .union items.reverse

/-- Reads leading `-` characters of a class as literals. -/
def dashes : Nat → List ClassNode → Parser (List ClassNode)
  | 0, acc => return acc
  | fuel + 1, acc => do
    if (← current) == some '-' then
      if !(← bumpAndSpace) then fault "unclosed class"
      dashes fuel (.literal '-' false :: acc)
    else return acc

mutual

/-- Reads a bracketed class, its `[` being current. -/
def bracket : Nat → Parser ClassNode
  | 0 => fault "class nests too deep"
  | fuel + 1 => do
    if !(← bumpAndSpace) then fault "unclosed class"
    let negated ← if (← current) == some '^' then
        if !(← bumpAndSpace) then fault "unclosed class"
        pure true
      else pure false
    let leading ← dashes ((← get).input.size + 1) []
    let first ← if leading.isEmpty && (← current) == some ']' then
        if !(← bumpAndSpace) then fault "unclosed class"
        pure [ClassNode.literal ']' false]
      else pure leading
    let body ← classBody fuel ((← get).input.size + 1) none first
    return .bracket negated body
termination_by fuel => (fuel, 0)

/-- Reads the rest of a class up to and including its `]`: `items` (latest first) is the
current operand, `pending` an operator waiting for it. -/
def classBody : Nat → Nat → Option (SetOp × ClassNode) → List ClassNode → Parser ClassNode
  | _, 0, _, _ => fault "unclosed class"
  | depth, steps + 1, pending, items => do
    bumpSpace
    let some c ← current | fault "unclosed class"
    let next ← peek
    if c == '[' then
      match ← asciiItem with
      | some a => classBody depth steps pending (a :: items)
      | none =>
        let inner ← bracket depth
        classBody depth steps pending (inner :: items)
    else if c == ']' then
      let _ ← bump
      return closeOp pending items
    else if c == '&' && next == some '&' then
      let _ ← bumpIf "&&"
      classBody depth steps (some (.inter, closeOp pending items)) []
    else if c == '-' && next == some '-' then
      let _ ← bumpIf "--"
      classBody depth steps (some (.diff, closeOp pending items)) []
    else if c == '~' && next == some '~' then
      let _ ← bumpIf "~~"
      classBody depth steps (some (.symmDiff, closeOp pending items)) []
    else
      let item ← classRange
      classBody depth steps pending (item :: items)
termination_by depth steps => (depth, steps + 1)

end

end Parser

end BlockProgram.Regex
