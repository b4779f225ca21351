import BlockProgram.Regex.Parse
import BlockProgram.Regex.Limits

/-! # Compiling patterns

The flags in force give each item its meaning. With the Unicode flag, classes are sets of
code points, folded to both cases under `i` before they are negated, and `\d`, `\s`, `\w`
and `\b` follow the Unicode tables. Without it, everything is ASCII: classes are computed as
sets of bytes and must stay within ASCII, and folding only pairs ASCII letters: any
other character outside a class matches only itself.

`compile` reads a whole pattern: alternatives separated by `|`, each a sequence of pieces.
Each piece carries its `Shape`, and a pattern that nests too deeply or compiles too large
for the limits of `Regex.Limits` is an error.
-/

namespace BlockProgram.Regex

open BlockProgram.Unicode

/-- The set of characters from a list of code point ranges. -/
def CharSet.ofRanges (rs : List (Nat × Nat)) : CharSet := .table ⟨rs.toArray⟩

/-- `s` folded to both cases under the `i` flag. -/
def foldIf (f : Flags) (s : CharSet) : CharSet := if f.caseless then .fold s else s

/-- `s`, or its complement. -/
def negateIf (negated : Bool) (s : CharSet) : CharSet := if negated then .complement s else s

/-- The ASCII ranges of a Perl class. -/
def PerlClass.ascii : PerlClass → List (Nat × Nat)
  | .digit => [(0x30, 0x39)]
  | .space => [(0x09, 0x0D), (0x20, 0x20)]
  | .word => [(0x30, 0x39), (0x41, 0x5A), (0x5F, 0x5F), (0x61, 0x7A)]

/-- The Unicode characters of a Perl class. -/
def PerlClass.unicode : PerlClass → CharSet
  | .digit => .ofTables decimalDigits
  | .space => .ofTables whiteSpace
  | .word => .ofTables wordCharacters

/-- The characters `.` matches. -/
def dotSet (f : Flags) : CharSet :=
  if f.dotAll then .span 0 maxCodePoint
  else if f.crlf then .complement (.union (.span 0x0A 0x0A) (.span 0x0D 0x0D))
  else .complement (.span 0x0A 0x0A)

/-- The meaning of an assertion. -/
def Assertion.look (f : Flags) : Assertion → Except String Look
  | .lineStart => .ok (if f.multiLine then (if f.crlf then .crlfStart else .lineStart) else .start)
  | .lineEnd => .ok (if f.multiLine then (if f.crlf then .crlfEnd else .lineEnd) else .finish)
  | .textStart => .ok .start
  | .textEnd => .ok .finish
  | .wordBoundary => .ok (.wordBoundary f.unicode)
  | .notWordBoundary => .ok (.notWordBoundary f.unicode)
  | .wordStart => .ok (.wordStart f.unicode)
  | .wordEnd => .ok (.wordEnd f.unicode)
  | .wordStartHalf => .ok (.wordStartHalf f.unicode)
  | .wordEndHalf => .ok (.wordEndHalf f.unicode)

/-- The meaning of a character outside classes. -/
def compileLiteral (f : Flags) (c : Char) (byte : Bool) : Except String Expr :=
  if f.unicode then .ok (.char (foldIf f (.single c)))
  else if byte && c.toNat > 0x7F then .error "a byte beyond ASCII could match invalid text"
  else if f.caseless && c.isAlpha then .ok (.char (.union (.single c.toLower) (.single c.toUpper)))
  else .ok (.char (.single c))

/-- The meaning of an item read outside classes. -/
def Primitive.compile (f : Flags) : Primitive → Except String Expr
  | .literal c byte => compileLiteral f c byte
  | .dot =>
    if f.unicode then .ok (.char (dotSet f))
    else .error "an ASCII dot could match inside a character"
  | .assertion a => return .look (← a.look f)
  | .perl k negated =>
    if f.unicode then .ok (.char (negateIf negated (foldIf f k.unicode)))
    else if negated then .error "a negated ASCII class could match inside a character"
    else .ok (.char (.ofRanges k.ascii))
  | .property sets negated =>
    if f.unicode then .ok (.char (negateIf negated (foldIf f (.ofTables sets))))
    else .error "Unicode classes need the Unicode flag"

mutual

/-- The characters of a class, with the Unicode flag. -/
def ClassNode.unicodeSet (f : Flags) : ClassNode → CharSet
  | .literal c _ => .single c
  | .range lo hi _ _ => .span lo.toNat hi.toNat
  | .ascii ms negated => negateIf negated (foldIf f (.ofRanges ms))
  | .perl k negated => negateIf negated (foldIf f k.unicode)
  | .property sets negated => negateIf negated (foldIf f (.ofTables sets))
  | .bracket negated body => negateIf negated (foldIf f (body.unicodeSet f))
  | .union items => CharSet.unionAll (ClassNode.unicodeSets f items)
  | .op o lhs rhs =>
    let a := foldIf f (lhs.unicodeSet f)
    let b := foldIf f (rhs.unicodeSet f)
    match o with
    | .inter => .inter a b
    | .diff => .diff a b
    | .symmDiff => .symmDiff a b

/-- The characters of class items, with the Unicode flag. -/
def ClassNode.unicodeSets (f : Flags) : List ClassNode → List CharSet
  | [] => []
  | n :: rest => n.unicodeSet f :: ClassNode.unicodeSets f rest

end

/-- The bytes from `lo` to `hi` as bits of a number. -/
def byteBits (lo hi : Nat) : Nat := Nat.pow 2 (hi + 1) - Nat.pow 2 lo

/-- Every byte. -/
def allBytes : Nat := Nat.pow 2 256 - 1

/-- The bits of a list of ranges. -/
def rangeBits (rs : List (Nat × Nat)) : Nat := rs.foldl (fun m (lo, hi) => m ||| byteBits lo hi) 0

/-- ASCII letters joined by their other case. -/
def foldAscii (m : Nat) : Nat :=
  let letters := Nat.pow 2 26 - 1
  m ||| (((m >>> 0x61) &&& letters) <<< 0x41) ||| (((m >>> 0x41) &&& letters) <<< 0x61)

/-- Byte bits folded under the `i` flag. -/
def foldBitsIf (f : Flags) (m : Nat) : Nat := if f.caseless then foldAscii m else m

/-- Byte bits, or their complement among all bytes. -/
def negateBitsIf (negated : Bool) (m : Nat) : Nat := if negated then m ^^^ allBytes else m

/-- Fails unless the bytes are all ASCII. -/
def asciiOnly (m : Nat) : Except String Nat :=
  if m < Nat.pow 2 128 then .ok m else .error "a class beyond ASCII needs the Unicode flag"

/-- The byte of a character in a class without the Unicode flag. -/
def classByte (c : Char) : Except String Nat :=
  if c.toNat < 0x80 then .ok c.toNat else .error "a class beyond ASCII needs the Unicode flag"

mutual

/-- The bytes of a class without the Unicode flag, as bits. -/
def ClassNode.byteSet (f : Flags) : ClassNode → Except String Nat
  | .literal c _ => return byteBits (← classByte c) (← classByte c)
  | .range lo hi _ _ => return byteBits (← classByte lo) (← classByte hi)
  | .ascii ms negated => asciiOnly (negateBitsIf negated (foldBitsIf f (rangeBits ms)))
  | .perl k negated => asciiOnly (negateBitsIf negated (rangeBits k.ascii))
  | .property _ _ => .error "Unicode classes need the Unicode flag"
  | .bracket negated body => do
    asciiOnly (negateBitsIf negated (foldBitsIf f (← body.byteSet f)))
  | .union items => ClassNode.byteSets f items
  | .op o lhs rhs => do
    let a := foldBitsIf f (← lhs.byteSet f)
    let b := foldBitsIf f (← rhs.byteSet f)
    return match o with
      | .inter => a &&& b
      | .diff => a &&& (b ^^^ allBytes)
      | .symmDiff => a ^^^ b

/-- The union of the bytes of class items, as bits. -/
def ClassNode.byteSets (f : Flags) : List ClassNode → Except String Nat
  | [] => .ok 0
  | n :: rest => return (← n.byteSet f) ||| (← ClassNode.byteSets f rest)

end

/-- The ranges of set bits among the first `n` bits, from bit `i`, with an open range
starting at `start`. -/
def bitRanges (m : Nat) : Nat → Nat → Option Nat → List (Nat × Nat)
  | 0, _, open_ => match open_ with | some s => [(s, 127)] | none => []
  | n + 1, i, open_ =>
    if m.testBit i then bitRanges m n (i + 1) (open_ <|> some i)
    else match open_ with
      | some s => (s, i - 1) :: bitRanges m n (i + 1) none
      | none => bitRanges m n (i + 1) none

/-- The meaning of a bracketed class. -/
def ClassNode.compile (f : Flags) (n : ClassNode) : Except String CharSet :=
  if f.unicode then .ok (n.unicodeSet f)
  else return .ofRanges (bitRanges (← n.byteSet f) 128 0 none)

mutual

/-- How deep a class nests: brackets, unions of two or more items and set operations each
add a level. -/
def ClassNode.nesting : ClassNode → Nat
  | .bracket _ body => body.nesting + 1
  | .union items => ClassNode.unionNesting items + if items.length ≥ 2 then 1 else 0
  | .op _ lhs rhs => max lhs.nesting rhs.nesting + 1
  | _ => 0

/-- How deep the deepest of class items nests. -/
def ClassNode.unionNesting : List ClassNode → Nat
  | [] => 0
  | n :: rest => max n.nesting (ClassNode.unionNesting rest)

end

/-- The shape of a single-item piece: a class or an assertion. -/
def Shape.ofPrimitive : Expr → Shape
  | .char s => .ofClass s
  | .look l => .look l
  | _ => {}

/-- An entry of a sequence being read: a piece with its shape, or a flag group, which
nothing may repeat. -/
inductive Item where
  /-- A compiled piece. -/
  | piece (r : Expr) (shape : Shape)
  /-- A group that only sets flags. -/
  | flags

/-- The shape of an entry: a flag group is nothing. -/
def Item.shape : Item → Shape
  | .piece _ s => s
  | .flags => {}

namespace Parser

/-- Whether a character may appear in a capture group name, at its start or later. -/
def isCaptureChar (c : Char) (first : Bool) : Bool :=
  if first then c == '_' || isAlphabetic c
  else c == '_' || c == '.' || c == '[' || c == ']' || isAlphabetic c || isNumeric c.toNat

/-- Moves past the characters of a capture name, up to its `>` or the end. -/
def nameChars (start : Nat) : Nat → Parser Unit
  | 0 => return
  | fuel + 1 => do
    let some c ← current | return
    if c == '>' then return
    if !isCaptureChar c ((← get).pos == start) then fault "invalid group name"
    if !(← bump) then return
    nameChars start fuel

/-- Reads a capture name and its `>`, after `(?P<` or `(?<`. -/
def captureName : Parser Unit := do
  if ← atEnd then fault "unclosed group name"
  let start := (← get).pos
  nameChars start ((← get).input.size + 1)
  let s ← get
  if s.input.size ≤ s.pos then fault "unclosed group name"
  let name := String.ofList ((s.input.toList.drop start).take (s.pos - start))
  let _ ← bump
  if name.isEmpty then fault "empty group name"
  if s.names.contains name then fault "duplicate group name"
  modify fun s => { s with names := name :: s.names }

/-- An entry of a flag group: `-`, or a flag letter. -/
inductive FlagItem where
  /-- `-`: the later flags are cleared. -/
  | negation
  /-- A flag letter. -/
  | flag (c : Char)
  deriving DecidableEq

/-- Reads the entries of a flag group up to its `:` or `)`. -/
def flagItems : Nat → List FlagItem → Bool → Parser (List FlagItem)
  | 0, _, _ => fault "unclosed flag group"
  | fuel + 1, acc, lastNegation => do
    let some c ← current | fault "unclosed flag group"
    if c == ':' || c == ')' then
      if lastNegation then fault "dangling flag negation"
      return acc.reverse
    if c == '-' then
      if acc.contains .negation then fault "repeated flag negation"
      if !(← bump) then fault "unclosed flag group"
      flagItems fuel (.negation :: acc) true
    else
      if !"imsUuRx".toList.contains c then fault "unrecognized flag"
      if acc.contains (.flag c) then fault "duplicate flag"
      if !(← bump) then fault "unclosed flag group"
      flagItems fuel (.flag c :: acc) false

/-- The flags after applying a flag group's entries. -/
def Flags.apply (f : Flags) (items : List FlagItem) : Flags :=
  (items.foldl (fun (acc : Flags × Bool) item =>
    let (g, clear) := acc
    match item with
    | .negation => (g, true)
    | .flag c =>
      let v := !clear
      let g := match c with
        | 'i' => { g with caseless := v }
        | 'm' => { g with multiLine := v }
        | 's' => { g with dotAll := v }
        | 'U' => { g with swapGreed := v }
        | 'u' => { g with unicode := v }
        | 'R' => { g with crlf := v }
        | _ => { g with verbose := v }
      (g, clear)) (f, false)).1

/-- Moves past characters while `p` holds, one at a time. -/
def skipWhile (p : Char → Bool) (spaced : Bool) : Nat → Parser Unit
  | 0 => return
  | fuel + 1 => do
    match ← current with
    | some c =>
      if p c then
        let _ ← if spaced then bumpAndSpace else bump
        skipWhile p spaced fuel
    | none => return

/-- Reads ASCII digits. -/
def digits : Nat → List Char → Parser (List Char)
  | 0, acc => return acc.reverse
  | fuel + 1, acc => do
    match ← current with
    | some c =>
      if c.isDigit then
        let _ ← bumpAndSpace
        digits fuel (c :: acc)
      else return acc.reverse
    | none => return acc.reverse

/-- Reads a repetition count, with white space around it. -/
def decimal : Parser Nat := do
  let fuel := (← get).input.size + 1
  skipWhile isWhiteSpace false fuel
  let ds ← digits fuel []
  skipWhile isWhiteSpace true fuel
  if ds.isEmpty then fault "missing repetition count"
  let n := ds.foldl (fun n c => 10 * n + (c.toNat - '0'.toNat)) 0
  if n ≥ Nat.pow 2 32 then fault "repetition count too large"
  return n

/-- Applies a repetition to the last item of a sequence. -/
def repeatLast (items : List Item) (lo : Nat) (hi : Option Nat) : Parser (List Item) :=
  match items with
  | .piece r s :: rest => return .piece (.rep lo hi r) (s.repetition lo hi) :: rest
  | _ => fault "repetition operator missing expression"

/-- Moves past a repetition operator and the `?` that may follow it. -/
def operatorEnd (spaced : Bool) : Parser Unit := do
  let more ← if spaced then bumpAndSpace else bump
  if more && (← current) == some '?' then
    let _ ← bump

/-- Reads a counted repetition, its `{` being current, and applies it. -/
def counted (items : List Item) : Parser (List Item) := do
  let _ ← repeatLast items 0 none
  if !(← bumpAndSpace) then fault "unclosed counted repetition"
  let lo ← decimal
  if ← atEnd then fault "unclosed counted repetition"
  let hi ← if (← current) == some ',' then
      if !(← bumpAndSpace) then fault "unclosed counted repetition"
      if (← current) != some '}' then pure (some (← decimal)) else pure none
    else pure (some lo)
  if (← current) != some '}' then fault "unclosed counted repetition"
  operatorEnd true
  if let some h := hi then
    if h < lo then fault "invalid repetition range"
  repeatLast items lo hi

/-- A sequence of entries, latest first, as one pattern. -/
def sequence (items : List Item) : Expr × Shape :=
  let expr := match (items.filterMap fun | .piece r _ => some r | .flags => none).reverse with
    | [r] => r
    | rs => .seq rs
  (expr, Shape.sequence (items.reverse.map Item.shape))

/-- Alternatives as one pattern. -/
def alternation (branches : List (Expr × Shape)) : Expr × Shape :=
  let expr := match branches with
    | [(r, _)] => r
    | bs => .alt (bs.map Prod.fst)
  (expr, Shape.alternation (branches.map Prod.snd))

/-- Reads one item outside classes. -/
def primitive : Parser Primitive := do
  match ← current with
  | some '\\' => escape
  | some '.' => let _ ← bump; return .dot
  | some '^' => let _ ← bump; return .assertion .lineStart
  | some '$' => let _ ← bump; return .assertion .lineEnd
  | some c => let _ ← bump; return .literal c false
  | none => fault "unexpected end of pattern"

/-- Gives the result of a step, or its fault. -/
def lift (r : Except String α) : Parser α :=
  match r with
  | .ok a => return a
  | .error e => fault e

/-- Ends a group at its `)`, restoring the flags from before it. -/
def closeGroup (saved : Flags) : Parser Unit := do
  modify fun s => { s with flags := saved }
  let _ ← bump

mutual

/-- Reads alternatives up to the end of the pattern (`top`) or of a group, whose `)` is
left current. `branches` are the alternatives read so far, `items` the pieces of the
current one, latest first. -/
def body : Nat → Bool → List (Expr × Shape) → List Item → Parser (Expr × Shape)
  | 0, _, _, _ => fault "pattern too deeply nested"
  | fuel + 1, top, branches, items => do
    bumpSpace
    match ← current with
    | none =>
      if top then return alternation (branches ++ [sequence items]) else fault "unclosed group"
    | some ')' =>
      if top then fault "unopened group" else return alternation (branches ++ [sequence items])
    | some '|' =>
      let _ ← bump
      body fuel top (branches ++ [sequence items]) []
    | some '(' =>
      let item ← group fuel
      body fuel top branches (item :: items)
    | some '[' =>
      let node ← bracket ((← get).input.size + 1)
      let s ← lift (node.compile (← get).flags)
      let shape := { Shape.ofClass s with depth := node.nesting }
      body fuel top branches (.piece (.char s) shape :: items)
    | some '?' =>
      let items ← repeatLast items 0 (some 1)
      operatorEnd false
      body fuel top branches items
    | some '*' =>
      let items ← repeatLast items 0 none
      operatorEnd false
      body fuel top branches items
    | some '+' =>
      let items ← repeatLast items 1 none
      operatorEnd false
      body fuel top branches items
    | some '{' =>
      let items ← counted items
      body fuel top branches items
    | some _ =>
      let p ← primitive
      let r ← lift (p.compile (← get).flags)
      body fuel top branches (.piece r (Shape.ofPrimitive r) :: items)

/-- Reads a group, its `(` being current: a piece, or a flag group that changes the flags
in force. -/
def group : Nat → Parser Item
  | 0 => fault "pattern too deeply nested"
  | fuel + 1 => do
    let _ ← bump
    bumpSpace
    if (← bumpIf "?=") || (← bumpIf "?!") || (← bumpIf "?<=") || (← bumpIf "?<!") then
      fault "look-around is not supported"
    let saved := (← get).flags
    if (← bumpIf "?P<") || (← bumpIf "?<") then
      captureName
      let (r, s) ← body fuel false [] []
      closeGroup saved
      return .piece r (Shape.group true s)
    else if ← bumpIf "?" then
      if ← atEnd then fault "unclosed group"
      let entries ← flagItems ((← get).input.size + 1) [] false
      let close ← current
      let _ ← bump
      modify fun s => { s with flags := Flags.apply s.flags entries }
      if close == some ')' then
        if entries.isEmpty then fault "repetition operator missing expression"
        return .flags
      let (r, s) ← body fuel false [] []
      closeGroup saved
      return .piece r (Shape.group false s)
    else
      let (r, s) ← body fuel false [] []
      closeGroup saved
      return .piece r (Shape.group true s)

end

end Parser

/-- Compiles a pattern with the given starting flags, within the limits. -/
def compile (pattern : String) (f : Flags) : Except String Expr := do
  let input := pattern.toList.toArray
  let (r, shape) ← (Parser.body (4 * input.size + 8) true [] []).run' ⟨input, 0, f, []⟩
  if shape.depth > nestLimit then throw "pattern nests too deeply"
  if !shape.fits then throw "pattern compiles too large"
  return r

end BlockProgram.Regex
