import BlockProgram.Unicode.RangeSet
import BlockProgram.Unicode.Tables.Folding

/-! # Simple case folding

Two code points are equal up to case when their simple case foldings agree. The orbit of
a code point is every code point equal to it up to case, itself included: `k`, `K` and the
Kelvin sign `K` form one orbit, as do `s`, `S` and the long `ſ`.
-/

namespace BlockProgram.Unicode

/-- The folding pairs of a table: each code point that folds, with what it folds to, in
increasing order of the first. -/
def foldingPairs (text : String) : Array (Nat × Nat) :=
  let step := fun (acc : Nat × List (Nat × Nat)) (pair : String) =>
    match pair.splitOn ":" with
    | [delta, target] =>
      let source := acc.1 + RangeSet.numeral delta
      (source, (source, RangeSet.numeral target) :: acc.2)
    | _ => acc
  ((text.splitOn " ").foldl step (0, [])).2.reverse.toArray

/-- The simple case folding pairs, ordered by the code point that folds. -/
def foldings : Array (Nat × Nat) := foldingPairs Tables.foldingTable

/-- The value for key `k` in an array of pairs ordered by key, searching between `lo`
and `hi`. -/
def findKey? (pairs : Array (Nat × α)) (k : Nat) (lo hi : Nat) : Option α :=
  if lo < hi then
    let mid := (lo + hi) / 2
    match pairs[mid]? with
    | none => none
    | some (key, v) =>
      if k < key then findKey? pairs k lo mid
      else if key < k then findKey? pairs k (mid + 1) hi
      else some v
  else none
termination_by hi - lo

/-- The simple case folding of a code point: itself when it does not fold. -/
def simpleFold (c : Nat) : Nat := (findKey? foldings c 0 foldings.size).getD c

/-- For each folding target, the code points that fold to it, ordered by target. -/
def foldSources : Array (Nat × List Nat) :=
  let byTarget := foldings.toList.mergeSort (fun a b => a.2 ≤ b.2)
  let grouped := byTarget.foldr (fun (s, t) acc =>
    match acc with
    | (t', sources) :: rest => if t = t' then (t', s :: sources) :: rest else (t, [s]) :: acc
    | [] => [(t, [s])]) []
  grouped.toArray

/-- Every code point equal to `c` up to case, `c` included. -/
def orbit (c : Nat) : List Nat :=
  let k := simpleFold c
  k :: (findKey? foldSources k 0 foldSources.size).getD []

end BlockProgram.Unicode
