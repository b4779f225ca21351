import BlockProgram.Toml.Value

/-! # Reading TOML text: characters, blanks and line ends

A reader works on the characters that remain to be read and fails with a `ParseError`.
Blanks are spaces and tabs; a line ends with `\n` or `\r\n`, never with a lone `\r`. A
comment runs from `#` to the end of its line and may hold tabs, printable ASCII and any
non-ASCII character, but no other control character. Every loop here reads at least one
character per round and runs on fuel of one more than the characters left.
-/

namespace BlockProgram.Toml

/-- Why a text is not a TOML document. -/
inductive ParseError where
  /-- A character the grammar does not allow where it stands, or an early end. -/
  | unexpected
  /-- A backslash in a string followed by no valid escape. -/
  | badEscape
  /-- A number, date or time outside its range. -/
  | outOfRange
  /-- A key given twice, or a table defined twice. -/
  | duplicate (key : String)
  /-- A key path that runs through a value which cannot take more keys. -/
  | notATable (key : String)
  /-- Arrays and inline tables nested too deeply, or a key of too many parts. -/
  | tooDeep
  deriving Repr, DecidableEq

/-- A reader of TOML text: the characters left, or the reason the text is no document. -/
abbrev Reader := StateT (List Char) (Except ParseError)

namespace Reader

/-- The next character, without reading it. -/
def peek : Reader (Option Char) := do return (← get).head?

/-- Reads one character. -/
def eat : Reader Unit := modify List.tail

/-- Reads the character `c`, which must come next. -/
def expect (c : Char) : Reader Unit := do
  if (← peek) == some c then eat else throw .unexpected

/-- One more than the characters left: enough fuel for a loop that reads a character a
round. -/
def budget : Reader Nat := do return (← get).length + 1

/-- Whether a character is a blank: a space or a tab. -/
def isBlank (c : Char) : Bool := c == ' ' || c == '\t'

/-- Skips blanks. -/
def skipBlanks : Reader Unit := modify (List.dropWhile isBlank)

/-- Whether a character may stand in a comment. -/
def isCommentChar (c : Char) : Bool := c == '\t' || (0x20 ≤ c.toNat && c.toNat != 0x7F)

/-- Skips a comment if one starts here; it stops before the end of its line or before a
character no comment may hold. -/
def skipComment : Reader Unit := do
  if (← peek) == some '#' then
    eat
    modify (List.dropWhile isCommentChar)

/-- Reads a line end if one comes next, and tells whether it did. -/
def newline : Reader Bool := do
  match ← get with
  | '\n' :: rest => set rest; return true
  | '\r' :: '\n' :: rest => set rest; return true
  | _ => return false

/-- Ends a line after an expression: blanks, a comment, then a line end or the end of
the text. -/
def lineEnd : Reader Unit := do
  skipBlanks
  skipComment
  if (← peek).isNone then return
  if !(← newline) then throw .unexpected

/-- Skips blanks, comments and line ends, as between the items of an array; whatever
stops it is left for the caller to judge. -/
def skipBlankLines : Nat → Reader Unit
  | 0 => pure ()
  | fuel + 1 => do
    skipBlanks
    skipComment
    if ← newline then skipBlankLines fuel

end Reader

end BlockProgram.Toml
