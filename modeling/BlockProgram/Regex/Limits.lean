import BlockProgram.Regex.Syntax
import Std.Data.HashMap

/-! # Limits on patterns

Two limits keep patterns small. A pattern may nest at most `nestLimit` levels: groups,
repetitions, alternations, sequences of two or more items, bracketed classes, nested
classes, unions of two or more class items and class set operations each add a level.
And the programs a pattern compiles to, one that reads a text forwards and one that reads
it backwards, may take at most `sizeLimit` bytes each.

A program is a graph of states over the bytes of UTF-8. A state takes `32` bytes, a
byte-range transition of a branching state `8` more, and an alternative of a choice `4`.
A class of characters becomes a trie of byte ranges: forwards it shares equal suffixes
(`forwardCost`), backwards the leading ranges of its byte sequences (`backwardCost`). A
class within ASCII is one branching state, and a single character one state per byte.
Repetitions copy their operand, so `x{n}` costs `n` times `x`, and `Shape.repeatCost`
adds the choices around the optional copies.

A pattern is simplified before it is compiled, and the sizes follow: pieces that are
nothing (an empty group, `x{0}`) are left out of sequences, a piece that only matches the
empty text is repeated at most once, alternatives within alternatives are flattened, and
alternatives that are all single characters, or all classes, become one class. A `Shape`
sums up a piece: its nesting, what it adds to both programs, and what these
simplifications look at.
-/

namespace BlockProgram.Regex

open BlockProgram.Unicode

/-- The deepest nesting a pattern may have. -/
def nestLimit : Nat := 250

/-- The most bytes each compiled program may take. -/
def sizeLimit : Nat := 10 * Nat.pow 2 20

/-- Code point ranges, sorted, disjoint and not touching. -/
abbrev Ranges := List (Nat × Nat)

namespace Ranges

/-- Joins sorted ranges that overlap or touch. -/
def merge : List (Nat × Nat) → Ranges
  | [] => []
  | [r] => [r]
  | (a, b) :: (c, d) :: rest =>
    if c ≤ b + 1 then merge ((a, max b d) :: rest) else (a, b) :: merge ((c, d) :: rest)

/-- The ranges of any list of ranges, sorted and joined. -/
def normalize (rs : List (Nat × Nat)) : Ranges := merge (rs.mergeSort fun x y => x.1 ≤ y.1)

/-- Every code point in either. -/
def union (a b : Ranges) : Ranges := normalize (a ++ b)

/-- Every code point not in the ranges. -/
def complement (rs : Ranges) : Ranges := RangeSet.gaps rs 0

/-- Every code point in both. -/
def inter (a b : Ranges) : Ranges := complement (union (complement a) (complement b))

/-- Every code point in the first and not the second. -/
def diff (a b : Ranges) : Ranges := inter a (complement b)

/-- Every code point in exactly one. -/
def symmDiff (a b : Ranges) : Ranges := union (diff a b) (diff b a)

/-- The ranges with every code point equal up to case to one of them. -/
def fold (rs : Ranges) : Ranges :=
  let set : RangeSet := ⟨rs.toArray⟩
  let extra := foldSources.toList.flatMap fun (target, sources) =>
    let orbit := target :: sources
    if orbit.any set.contains then orbit.map fun c => (c, c) else []
  union rs (normalize extra)

end Ranges

/-- The code points of a set of characters, as ranges. -/
def CharSet.ranges : CharSet → Ranges
  | .table t => Ranges.normalize t.ranges.toList
  | .fold s => Ranges.fold s.ranges
  | .complement s => Ranges.complement s.ranges
  | .union a b => Ranges.union a.ranges b.ranges
  | .inter a b => Ranges.inter a.ranges b.ranges
  | .diff a b => Ranges.diff a.ranges b.ranges
  | .symmDiff a b => Ranges.symmDiff a.ranges b.ranges

/-- The UTF-8 bytes of a code point. -/
def utf8Bytes (n : Nat) : List Nat :=
  if n < 0x80 then [n]
  else if n < 0x800 then [0xC0 + n / 64, 0x80 + n % 64]
  else if n < 0x10000 then [0xE0 + n / 4096, 0x80 + n / 64 % 64, 0x80 + n % 64]
  else [0xF0 + n / 262144, 0x80 + n / 4096 % 64, 0x80 + n / 64 % 64, 0x80 + n % 64]

/-- The first place where a range crosses from one encoding length to the next. -/
def lengthSplit (lo hi : Nat) : Option Nat :=
  [0x7F, 0x7FF, 0xFFFF].find? fun m => lo ≤ m ∧ m < hi

/-- The first place where a range does not cover whole blocks of continuation bytes: the
end of the range's first part. -/
def blockSplit (lo hi : Nat) : Option Nat :=
  [64, 4096, 262144].findSome? fun k =>
    if lo / k = hi / k then none
    else if lo % k ≠ 0 then some (lo - lo % k + k - 1)
    else if hi % k ≠ k - 1 then some (hi - hi % k - 1)
    else none

/-- The byte sequences of code point ranges, in order: each one a list of byte ranges, one
per byte, whose product is exactly a run of code points. Surrogates are left out. -/
def byteSequences : Nat → List (Nat × Nat) → List (List (Nat × Nat))
  | 0, _ => []
  | _, [] => []
  | fuel + 1, (lo, hi) :: rest =>
    if lo < 0xE000 ∧ 0xD7FF < hi then byteSequences fuel ((lo, 0xD7FF) :: (0xE000, hi) :: rest)
    else if hi < lo then byteSequences fuel rest
    else match lengthSplit lo hi with
      | some m => byteSequences fuel ((lo, m) :: (m + 1, hi) :: rest)
      | none =>
        if hi ≤ 0x7F then [(lo, hi)] :: byteSequences fuel rest
        else match blockSplit lo hi with
          | some m => byteSequences fuel ((lo, m) :: (m + 1, hi) :: rest)
          | none => (utf8Bytes lo).zip (utf8Bytes hi) :: byteSequences fuel rest

/-- The byte sequences of ranges. -/
def Ranges.sequences (rs : Ranges) : List (List (Nat × Nat)) :=
  byteSequences (40 * rs.length + 8) rs

/-- A transition: a byte range and the state it leads to. -/
abbrev Edge := Nat × Nat × Nat

/-- A trie node still open: its finished transitions and the range whose target is not
known yet. -/
structure OpenNode where
  /-- The finished transitions, in order. -/
  edges : List Edge := []
  /-- The range still open. -/
  last : Option (Nat × Nat) := none

/-- Closes a node's open range onto a target. -/
def OpenNode.close (n : OpenNode) (target : Nat) : List Edge :=
  n.edges ++ match n.last with
    | some (a, b) => [(a, b, target)]
    | none => []

/-- Building the forward trie of a class: open nodes from the root down, the states made
so far by their transitions, the next state number and the bytes taken. State `0` is the
end of the class. -/
structure TrieBuild where
  /-- The open nodes, root first. -/
  pending : Array OpenNode := #[{}]
  /-- The states made, by their transitions. -/
  made : Std.HashMap (List Edge) Nat := {}
  /-- The next state number. -/
  fresh : Nat := 1
  /-- The bytes taken. -/
  bytes : Nat := 32

namespace TrieBuild

/-- The state with these transitions: an equal one made before, or a new one. -/
def state (t : TrieBuild) (edges : List Edge) : TrieBuild × Nat :=
  match t.made.get? edges with
  | some id => (t, id)
  | none =>
    ({ t with made := t.made.insert edges t.fresh, fresh := t.fresh + 1,
              bytes := t.bytes + 32 + 8 * edges.length }, t.fresh)

/-- Makes states of the open nodes below level `keep`, deepest first, and closes the open
range at level `keep` onto them. -/
def closeBelow (keep : Nat) : Nat → TrieBuild → Nat → TrieBuild
  | 0, t, _ => t
  | fuel + 1, t, target =>
    if keep + 1 < t.pending.size then
      match t.pending.back? with
      | some node =>
        let (t, id) := { t with pending := t.pending.pop }.state (node.close target)
        closeBelow keep fuel t id
      | none => t
    else
      { t with pending := t.pending.modify keep fun n => { edges := n.close target } }

/-- Adds a byte sequence, sharing the open ranges it starts with. -/
def add (t : TrieBuild) (seq : List (Nat × Nat)) : TrieBuild :=
  let shared := ((t.pending.toList.zip seq).takeWhile fun (n, r) => n.last == some r).length
  let t := closeBelow shared (t.pending.size + 1) t 0
  match seq.drop shared with
  | [] => t
  | r :: rest =>
    { t with pending := (t.pending.modify shared fun n => { n with last := some r }) ++
        (rest.map fun r => ({ last := some r } : OpenNode)).toArray }

/-- Makes the remaining states, the root last, and gives the bytes taken. -/
def finish (t : TrieBuild) : Nat :=
  let t := closeBelow 0 (t.pending.size + 1) t 0
  match t.pending[0]? with
  | some root => (t.state root.edges).1.bytes
  | none => t.bytes

end TrieBuild

/-- The bytes of the forward program of a class, from its byte sequences in order. -/
def forwardCost (seqs : List (List (Nat × Nat))) : Nat :=
  (seqs.foldl TrieBuild.add {}).finish

/-- The states of a backward class program made so far, by the state they lead to and
their byte range, and how many there are. -/
abbrev SuffixStates := Std.HashMap Edge Nat × Nat

/-- Follows one byte range from state `last`: to the state made for it before, or to a new
one. -/
def suffixStep (acc : SuffixStates × Nat) (r : Nat × Nat) : SuffixStates × Nat :=
  let ((made, count), last) := acc
  match made.get? (last, r.1, r.2) with
  | some id => ((made, count), id)
  | none => ((made.insert (last, r.1, r.2) (count + 1), count + 1), count + 1)

/-- Adds the states of one byte sequence, starting from the end of the class. -/
def suffixSequence (s : SuffixStates) (seq : List (Nat × Nat)) : SuffixStates :=
  (seq.foldl suffixStep (s, 0)).1

/-- The bytes of the backward program of a class: a choice with one alternative per byte
sequence, its end, and one state per byte range, shared between sequences that start
alike. -/
def backwardCost (seqs : List (List (Nat × Nat))) : Nat :=
  64 + 32 * (seqs.foldl suffixSequence ({}, 0)).2 + 4 * seqs.length

/-- The bytes a class of code points takes in the forward and the backward program. An
empty class is one state that never matches, a single character is a string of byte
states, and a class within ASCII is one branching state and its end. -/
def rangesCost (rs : Ranges) : Nat × Nat :=
  match rs with
  | [] => (32, 32)
  | [(a, b)] =>
    if a = b then (32 * (utf8Bytes a).length, 32 * (utf8Bytes a).length)
    else if b ≤ 0x7F then (72, 72)
    else (forwardCost rs.sequences, backwardCost rs.sequences)
  | _ =>
    if rs.all (·.2 ≤ 0x7F) then (64 + 8 * rs.length, 64 + 8 * rs.length)
    else (forwardCost rs.sequences, backwardCost rs.sequences)

/-- The code points of a set of characters, surrogates left out since no text holds
them. -/
def CharSet.scalars (s : CharSet) : Ranges := Ranges.diff s.ranges [(0xD800, 0xDFFF)]

/-- What a piece adds to one of the two programs: its bytes, and whether it ends in a
choice, which takes four bytes more for the state it is joined to. -/
structure Cost where
  /-- The bytes it takes. -/
  bytes : Nat
  /-- Whether its last state is a choice. -/
  choiceEnd : Bool := false

/-- The bytes of joining the end of a piece to what follows it. -/
def Cost.join (c : Cost) : Nat := if c.choiceEnd then 4 else 0

/-- A piece that matches one character: a single one, or any of a class. Alternatives that
are all single characters, or all classes, become one class. -/
inductive Atom where
  /-- One character. -/
  | literal (c : Nat)
  /-- A class of characters. -/
  | set (rs : Ranges)

/-- The class that alternatives of single characters, or of classes, become. -/
def Atom.joinAll (atoms : List (Option Atom)) : Option Ranges :=
  let literals := atoms.filterMap fun | some (.literal c) => some (c, c) | _ => none
  let sets := atoms.filterMap fun | some (.set rs) => some rs | _ => none
  if literals.length = atoms.length then some (Ranges.normalize literals)
  else if sets.length = atoms.length then some (sets.foldl Ranges.union [])
  else none

/-- Alternatives flattened into a choice: how many, and the bytes they and their joins take
in each program. -/
structure Choice where
  /-- The number of alternatives. -/
  count : Nat
  /-- Their bytes in the forward program. -/
  forward : Nat
  /-- Their bytes in the backward program. -/
  backward : Nat

/-- What the limits need to know about a piece of a pattern. -/
structure Shape where
  /-- How deep it nests. -/
  depth : Nat := 0
  /-- What it adds to the forward program. -/
  forward : Cost := ⟨32, false⟩
  /-- What it adds to the backward program. -/
  backward : Cost := ⟨32, false⟩
  /-- Whether it can match the empty text. -/
  nullable : Bool := true
  /-- Whether it can match only the empty text. -/
  emptyOnly : Bool := true
  /-- Whether it is nothing at all, which a sequence leaves out. -/
  blank : Bool := true
  /-- The character or class it matches, when it matches one character. -/
  atom : Option Atom := none
  /-- Its alternatives, when it is a choice: a choice among them takes them in. -/
  choice : Option Choice := none
  /-- Whether every match starts at the start of the text. -/
  startAnchored : Bool := false
  /-- Whether every match ends at the end of the text. -/
  endAnchored : Bool := false

namespace Shape

/-- Nothing: an empty pattern, or a group that only sets flags. -/
def blankShape : Shape := {}

/-- A class of code points. -/
def ofRanges (rs : Ranges) : Shape :=
  let (f, b) := rangesCost rs
  { forward := ⟨f, false⟩, backward := ⟨b, false⟩, nullable := false, emptyOnly := false,
    blank := false,
    atom := some (match rs with
      | [(a, b)] => if a = b then .literal a else .set rs
      | _ => .set rs) }

/-- A class of characters. -/
def ofClass (s : CharSet) : Shape := ofRanges s.scalars

/-- An assertion: one state. -/
def look (l : Look) : Shape :=
  { blank := false, startAnchored := l == .start, endAnchored := l == .finish }

/-- A shape nested one level deeper. -/
def deeper (s : Shape) : Shape := { s with depth := s.depth + 1 }

/-- A group around a piece; a capturing group adds a state at each end forwards. -/
def group (capturing : Bool) (body : Shape) : Shape :=
  if capturing then
    { body with depth := body.depth + 1, blank := false, atom := none, choice := none,
                forward := ⟨64 + body.forward.bytes + body.forward.join, false⟩ }
  else body.deeper

/-- The deepest of some shapes. -/
def maxDepth (shapes : List Shape) : Nat := shapes.foldl (fun d s => max d s.depth) 0

/-- Whether every match of pieces in a row starts at the start of the text: the first
pieces that match only the empty text, and the one after them, are looked at. -/
def leadAnchored (anchored : Shape → Bool) : List Shape → Bool
  | [] => false
  | s :: rest => anchored s || (s.emptyOnly && leadAnchored anchored rest)

/-- Pieces in a row: each end is joined to the next start, forwards in order and backwards
from the last piece to the first. -/
def concat (items : List Shape) : Shape :=
  let forwardJoins := (items.dropLast.map (·.forward.join)).foldr (· + ·) 0
  let backwardJoins := ((items.drop 1).map (·.backward.join)).foldr (· + ·) 0
  { forward := ⟨(items.map (·.forward.bytes)).foldr (· + ·) 0 + forwardJoins,
                 (items.getLast?.map (·.forward.choiceEnd)).getD false⟩
    backward := ⟨(items.map (·.backward.bytes)).foldr (· + ·) 0 + backwardJoins,
                  (items.head?.map (·.backward.choiceEnd)).getD false⟩
    nullable := items.all (·.nullable)
    emptyOnly := items.all (·.emptyOnly)
    blank := false
    startAnchored := leadAnchored (·.startAnchored) items
    endAnchored := leadAnchored (·.endAnchored) items.reverse }

/-- Items in a row, flag groups among them. A row of two or more nests one level deeper;
the pieces that are nothing are left out, and a single piece left stands for the row. -/
def sequence (items : List Shape) : Shape :=
  let depth := maxDepth items + if items.length ≥ 2 then 1 else 0
  match items.filter (!·.blank) with
  | [] => { depth }
  | [s] => { s with depth }
  | kept => { concat kept with depth }

/-- The alternatives of a piece once choices are flattened: its own, or the piece itself. -/
def branchChoice (s : Shape) : Choice :=
  s.choice.getD ⟨1, s.forward.bytes + s.forward.join, s.backward.bytes + s.backward.join⟩

/-- Alternatives: a choice among them, with a common end. Alternatives that are choices are
taken in, and alternatives that are all single characters, or all classes, become one
class. -/
def alternation (branches : List Shape) : Shape :=
  match branches with
  | [b] => b
  | _ =>
    let depth := maxDepth branches + 1
    let nullable := branches.any (·.nullable)
    let startAnchored := branches.all (·.startAnchored)
    let endAnchored := branches.all (·.endAnchored)
    match Atom.joinAll (branches.map (·.atom)) with
    | some rs => { ofRanges rs with depth }
    | none =>
      let parts := branches.map branchChoice
      let c : Choice :=
        ⟨(parts.map (·.count)).foldr (· + ·) 0, (parts.map (·.forward)).foldr (· + ·) 0,
          (parts.map (·.backward)).foldr (· + ·) 0⟩
      { depth, nullable, startAnchored, endAnchored
        forward := ⟨64 + 4 * c.count + c.forward, false⟩
        backward := ⟨64 + 4 * c.count + c.backward, false⟩
        emptyOnly := branches.all (·.emptyOnly)
        blank := false
        choice := some c }

/-- What `lo` to `hi` copies of a piece add to a program: the copies, their joins, and the
choices between the optional ones. -/
def repeatCost (nullable : Bool) (lo : Nat) (hi : Option Nat) (p : Cost) : Cost :=
  let c := p.bytes
  let j := p.join
  match lo, hi with
  | 0, some 1 => ⟨c + 72 + j, false⟩
  | 0, none => if nullable then ⟨c + 112 + j, false⟩ else ⟨c + 36 + j, true⟩
  | n, none => ⟨n * c + 36 + n * j, true⟩
  | n, some m =>
    if n = m then ⟨n * c + (n - 1) * j, p.choiceEnd⟩
    else ⟨(if n = 0 then 32 else n * c) + 32 + (m - n) * (c + 40) + m * j, false⟩

/-- A repetition. A piece that only matches the empty text is repeated at most once; no
copies are nothing, and one copy is the piece itself. -/
def repetition (lo : Nat) (hi : Option Nat) (sub : Shape) : Shape :=
  let (lo, hi) :=
    if sub.emptyOnly then (min lo 1, some (match hi with | some h => min h 1 | none => 1))
    else (lo, hi)
  let depth := sub.depth + 1
  if hi == some 0 then { depth }
  else if lo = 1 && hi == some 1 then { sub with depth }
  else
    { depth
      forward := repeatCost sub.nullable lo hi sub.forward
      backward := repeatCost sub.nullable lo hi sub.backward
      nullable := lo = 0 || sub.nullable
      emptyOnly := sub.emptyOnly
      blank := false
      startAnchored := lo > 0 && sub.startAnchored
      endAnchored := lo > 0 && sub.endAnchored }

/-- The bytes of the forward program of a whole pattern: a loop that lets a match start
anywhere (one state when the pattern is anchored at the start), a capture around the
pattern, and the final state. -/
def forwardTotal (s : Shape) : Nat :=
  (if s.startAnchored then 32 else 112) + 64 + s.forward.bytes + s.forward.join + 32

/-- The bytes of the backward program of a whole pattern: the same without the capture. -/
def backwardTotal (s : Shape) : Nat :=
  (if s.endAnchored then 32 else 112) + s.backward.bytes + s.backward.join + 32

/-- Whether a whole pattern of this shape is within the limits. -/
def fits (s : Shape) : Bool :=
  s.depth ≤ nestLimit && s.forwardTotal ≤ sizeLimit && s.backwardTotal ≤ sizeLimit

end Shape

end BlockProgram.Regex
