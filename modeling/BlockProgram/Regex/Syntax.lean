import BlockProgram.Unicode.Folding
import BlockProgram.Unicode.Property

/-! # Regular expressions

A compiled pattern is an `Expr`: characters drawn from sets, zero-width assertions about a
position, bounded or unbounded repetition, sequences and alternatives. Capture groups and
greediness do not change whether a text matches, so they are not kept.

A `CharSet` is a set of characters built from ranges and Unicode tables with set
operations and case folding. Folding is closed over equality up to case: a character is in
`fold s` when some character equal to it up to case is in `s`.
-/

namespace BlockProgram.Regex

open BlockProgram.Unicode

/-- A set of characters, by code point. -/
inductive CharSet where
  /-- The code points of a table. -/
  | table (t : RangeSet)
  /-- The characters equal up to case to one in the set. -/
  | fold (s : CharSet)
  /-- The characters not in the set. -/
  | complement (s : CharSet)
  /-- The characters in either set. -/
  | union (a b : CharSet)
  /-- The characters in both sets. -/
  | inter (a b : CharSet)
  /-- The characters in the first set and not the second. -/
  | diff (a b : CharSet)
  /-- The characters in exactly one of the sets. -/
  | symmDiff (a b : CharSet)
  deriving Inhabited

namespace CharSet

/-- No character. -/
def none : CharSet := .table RangeSet.empty

/-- The characters from `lo` to `hi`. -/
def span (lo hi : Nat) : CharSet := .table (RangeSet.span lo hi)

/-- One character. -/
def single (c : Char) : CharSet := span c.toNat c.toNat

/-- The union of a list of sets. -/
def unionAll : List CharSet → CharSet
  | [] => none
  | [s] => s
  | s :: rest => .union s (unionAll rest)

/-- The union of a list of tables. -/
def ofTables (ts : List RangeSet) : CharSet := unionAll (ts.map .table)

/-- Whether the set holds the code point `c`. -/
def contains : CharSet → Nat → Bool
  | .table t, c => t.contains c
  | .fold s, c => (orbit c).any fun d => s.contains d
  | .complement s, c => !s.contains c
  | .union a b, c => a.contains c || b.contains c
  | .inter a b, c => a.contains c && b.contains c
  | .diff a b, c => a.contains c && !b.contains c
  | .symmDiff a b, c => a.contains c != b.contains c

end CharSet

/-- A zero-width assertion about the position between two characters. -/
inductive Look where
  /-- The start of the text. -/
  | start
  /-- The end of the text. -/
  | finish
  /-- The start of a line: the start of the text or just after `\n`. -/
  | lineStart
  /-- The end of a line: the end of the text or just before `\n`. -/
  | lineEnd
  /-- The start of a line, where `\r\n`, `\r` and `\n` all end lines. -/
  | crlfStart
  /-- The end of a line, where `\r\n`, `\r` and `\n` all end lines. -/
  | crlfEnd
  /-- A word character on exactly one side. -/
  | wordBoundary (unicode : Bool)
  /-- Word characters on both sides or on neither. -/
  | notWordBoundary (unicode : Bool)
  /-- No word character before, one after. -/
  | wordStart (unicode : Bool)
  /-- A word character before, none after. -/
  | wordEnd (unicode : Bool)
  /-- No word character before. -/
  | wordStartHalf (unicode : Bool)
  /-- No word character after. -/
  | wordEndHalf (unicode : Bool)
  deriving DecidableEq, Repr

/-- A compiled pattern. -/
inductive Expr where
  /-- The empty text. -/
  | empty
  /-- One character of the set. -/
  | char (s : CharSet)
  /-- An assertion, matching the empty text where it holds. -/
  | look (l : Look)
  /-- From `min` to `max` (or any number, for `none`) matches in a row. -/
  | rep (min : Nat) (max : Option Nat) (r : Expr)
  /-- The parts in order. -/
  | seq (parts : List Expr)
  /-- Any of the alternatives. -/
  | alt (options : List Expr)
  deriving Inhabited

end BlockProgram.Regex
