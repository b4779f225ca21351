/-! # Sets of code points

A `RangeSet` holds code points as sorted, disjoint closed ranges, so that membership is a
binary search. The Unicode tables of this library are stored as text: an inversion list
whose numbers are the differences between consecutive boundaries, written in base 36
and separated by spaces (`RangeSet.decode`). The first number is where the first range
starts, and after that the numbers alternate between a range's length and the gap to
the next range.
-/

namespace BlockProgram.Unicode

/-- The largest code point. -/
def maxCodePoint : Nat := 0x10FFFF

/-- Code points as sorted, disjoint closed ranges. -/
structure RangeSet where
  /-- The ranges, in increasing order, separated by at least one code point. -/
  ranges : Array (Nat × Nat)
  deriving Inhabited, Repr

namespace RangeSet

/-- The empty set. -/
def empty : RangeSet := ⟨#[]⟩

/-- The range from `lo` to `hi`, both included. -/
def span (lo hi : Nat) : RangeSet := ⟨#[(lo, hi)]⟩

/-- The value of a base-36 digit. -/
def digitValue (c : Char) : Nat :=
  if c.isDigit then c.toNat - '0'.toNat else c.toNat - 'a'.toNat + 10

/-- A base-36 numeral. -/
def numeral (s : String) : Nat := s.foldl (fun n c => 36 * n + digitValue c) 0

/-- The ranges of an inversion list given as differences: a start, then lengths and gaps
taking turns. -/
def ofDeltas : List Nat → Nat → List (Nat × Nat)
  | gap :: length :: rest, pos =>
    let lo := pos + gap
    (lo, lo + length - 1) :: ofDeltas rest (lo + length)
  | _, _ => []

/-- Reads a set from its text form. -/
def decode (s : String) : RangeSet :=
  let numbers := (s.splitOn " ").filter (· ≠ "") |>.map numeral
  ⟨(ofDeltas numbers 0).toArray⟩

/-- Whether `c` lies in one of the ranges from index `lo` up to, not including, `hi`. -/
def searchIn (t : RangeSet) (c : Nat) (lo hi : Nat) : Bool :=
  if lo < hi then
    let mid := (lo + hi) / 2
    match t.ranges[mid]? with
    | none => false
    | some (a, b) =>
      if c < a then searchIn t c lo mid
      else if b < c then searchIn t c (mid + 1) hi
      else true
  else false
termination_by hi - lo

/-- Whether the set holds `c`. -/
def contains (t : RangeSet) (c : Nat) : Bool := t.searchIn c 0 t.ranges.size

/-- The ranges between and around the given sorted ranges, from `pos` on. -/
def gaps : List (Nat × Nat) → Nat → List (Nat × Nat)
  | [], pos => if pos ≤ maxCodePoint then [(pos, maxCodePoint)] else []
  | (a, b) :: rest, pos => (if pos < a then [(pos, a - 1)] else []) ++ gaps rest (b + 1)

/-- Every code point not in the set. -/
def complement (t : RangeSet) : RangeSet := ⟨(gaps t.ranges.toList 0).toArray⟩

end RangeSet

end BlockProgram.Unicode
