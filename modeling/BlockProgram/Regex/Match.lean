import BlockProgram.Regex.Syntax

/-! # Matching

A pattern is matched against a text by the positions it can reach: `Expr.ends t r i` is
the set of positions where a match of `r` that starts at position `i` can end. Positions
are between characters, from `0` to the length of the text. A text matches when some
start position has an end.

Repetitions are computed by rounds: round `k` holds the ends of `k` matches in a row.
Only `n + 1` rounds matter for a text of `n` characters: a chain of more matches has a
match of the empty text in it, which can be repeated or dropped freely, so every round
from `n + 1` on reaches the same positions (`capRounds`).
-/

namespace BlockProgram.Regex

open BlockProgram.Unicode

/-- A text as its characters. -/
abbrev Text := Array Char

/-- Whether a character is an ASCII word character. -/
def isAsciiWord (c : Char) : Bool := c.isAlphanum || c == '_'

/-- Whether the character at `i` exists and is a word character. -/
def wordAt (t : Text) (unicode : Bool) (i : Nat) : Bool :=
  match t[i]? with
  | some c => if unicode then isWordCharacter c.toNat else isAsciiWord c
  | none => false

/-- Whether the character before position `i` is a word character. -/
def wordBefore (t : Text) (unicode : Bool) (i : Nat) : Bool :=
  match i with
  | 0 => false
  | j + 1 => wordAt t unicode j

/-- Whether an assertion holds at position `i`. -/
def Look.holds (t : Text) (i : Nat) : Look → Bool
  | .start => i == 0
  | .finish => i == t.size
  | .lineStart => i == 0 || t[i - 1]? == some '\n'
  | .lineEnd => i == t.size || t[i]? == some '\n'
  | .crlfStart =>
    i == 0 || t[i - 1]? == some '\n' || (t[i - 1]? == some '\r' && t[i]? != some '\n')
  | .crlfEnd =>
    i == t.size || t[i]? == some '\r' || (t[i]? == some '\n' && (i == 0 || t[i - 1]? != some '\r'))
  | .wordBoundary u => wordBefore t u i != wordAt t u i
  | .notWordBoundary u => wordBefore t u i == wordAt t u i
  | .wordStart u => !wordBefore t u i && wordAt t u i
  | .wordEnd u => wordBefore t u i && !wordAt t u i
  | .wordStartHalf u => !wordBefore t u i
  | .wordEndHalf u => !wordAt t u i

/-- Adds a position to an increasing list of positions. -/
def addPos (p : Nat) : List Nat → List Nat
  | [] => [p]
  | q :: rest => if p < q then p :: q :: rest else if p = q then q :: rest else q :: addPos p rest

/-- The union of two increasing lists of positions. -/
def unionPos (a b : List Nat) : List Nat := a.foldr addPos b

/-- The ends reachable by one more step of `f` from any of `ps`. -/
def step (f : Nat → List Nat) (ps : List Nat) : List Nat :=
  ps.foldr (fun p acc => unionPos (f p) acc) []

/-- Round `k`: the ends of `k` steps of `f` from `ps`. -/
def rounds (f : Nat → List Nat) : Nat → List Nat → List Nat
  | 0, ps => ps
  | k + 1, ps => rounds f k (step f ps)

/-- The union of rounds `0` to `k` of `f` from `ps`. -/
def upTo (f : Nat → List Nat) : Nat → List Nat → List Nat
  | 0, ps => ps
  | k + 1, ps => unionPos ps (upTo f k (step f ps))

/-- A repetition count with everything from `cap` on taken as `cap`. -/
def capRounds (cap : Nat) (k : Option Nat) : Nat :=
  match k with
  | some k => min k cap
  | none => cap

/-- The ends of `lo` to `hi` steps of `f` from `ps`, on a text of `cap - 1` characters. -/
def repeatEnds (f : Nat → List Nat) (cap lo : Nat) (hi : Option Nat) (ps : List Nat) :
    List Nat :=
  let lo' := min lo cap
  upTo f (capRounds cap hi - lo') (rounds f lo' ps)

mutual

/-- The positions where a match of `r` that starts at `i` can end. -/
def Expr.ends (t : Text) : Expr → Nat → List Nat
  | .empty, i => [i]
  | .char s, i =>
    match t[i]? with
    | some c => if s.contains c.toNat then [i + 1] else []
    | none => []
  | .look l, i => if l.holds t i then [i] else []
  | .rep lo hi r, i => repeatEnds (fun p => r.ends t p) (t.size + 1) lo hi [i]
  | .seq rs, i => Expr.seqEnds t rs [i]
  | .alt rs, i => Expr.altEnds t rs i

/-- The positions where matches of `rs` in a row, starting at any of `ps`, can end. -/
def Expr.seqEnds (t : Text) : List Expr → List Nat → List Nat
  | [], ps => ps
  | r :: rest, ps => Expr.seqEnds t rest (step (fun p => r.ends t p) ps)

/-- The positions where a match of any of `rs` that starts at `i` can end. -/
def Expr.altEnds (t : Text) : List Expr → Nat → List Nat
  | [], _ => []
  | r :: rest, i => unionPos (r.ends t i) (Expr.altEnds t rest i)

end

/-- Whether `r` matches somewhere in the text `s`. -/
def Expr.isMatch (r : Expr) (s : String) : Bool :=
  let t : Text := s.toList.toArray
  (List.range (t.size + 1)).any fun i => !(r.ends t i).isEmpty

end BlockProgram.Regex
