import BlockProgram.Decimal.Rounding

/-! # The shortest decimal that reads back

A finite double stands for every real that rounds to it: an interval around its exact
value, closed when its significand is even. `Decimal.shortest` finds the decimal with the
fewest significant digits in that interval and, of two such, the one nearer to the exact
value; an exact tie goes to the even last digit or to the larger magnitude, as a `Tie`
says. It works on the decimal grids of one,
two, up to seventeen significant digits: on each grid only the two neighbours of the value
can lie in the interval, so each grid costs two exact comparisons.
-/

namespace BlockProgram.Decimal

/-- A decimal `digits · 10 ^ exponent` whose digits have no trailing zero (zero is
`⟨0, 0⟩`). -/
structure Digits where
  /-- The significant digits as a number. -/
  digits : Nat
  /-- The power of ten of the last digit. -/
  exponent : Int
  deriving Repr, DecidableEq

/-- Removes trailing zeros, moving them into the exponent; `fuel` bounds the steps. -/
def Digits.normalize : Nat → Digits → Digits
  | 0, d => d
  | fuel + 1, d =>
    if d.digits ≠ 0 ∧ d.digits % 10 = 0 then
      Digits.normalize fuel ⟨d.digits / 10, d.exponent + 1⟩
    else d

/-- Exact comparison of `a · 2 ^ p · 10 ^ s` with `b · 2 ^ r · 10 ^ t` for integer exponents,
by moving every negative power to the other side. -/
def compareScaled (a : Nat) (p s : Int) (b : Nat) (r t : Int) : Ordering :=
  let lhs := a * Nat.pow 2 (max p 0).toNat * Nat.pow 10 (max s 0).toNat *
    Nat.pow 2 (max (-r) 0).toNat * Nat.pow 10 (max (-t) 0).toNat
  let rhs := b * Nat.pow 2 (max r 0).toNat * Nat.pow 10 (max t 0).toNat *
    Nat.pow 2 (max (-p) 0).toNat * Nat.pow 10 (max (-s) 0).toNat
  compare lhs rhs

/-- `⌊a · 2 ^ p / 10 ^ g⌋` for integer exponents. -/
def floorScaled (a : Nat) (p g : Int) : Nat :=
  (a * Nat.pow 2 (max p 0).toNat * Nat.pow 10 (max (-g) 0).toNat) /
    (Nat.pow 2 (max (-p) 0).toNat * Nat.pow 10 (max g 0).toNat)

/-- The power of ten of the leading digit of `m · 2 ^ q` for `m > 0`: the `k` with
`10 ^ k ≤ m · 2 ^ q < 10 ^ (k + 1)`. An estimate from the bit length is off by at most one,
so two corrections each way settle it. -/
def leadingExponent (m : Nat) (q : Int) : Int :=
  let k0 : Int := ((m.log2 : Int) + q) * 30103 / 100000
  let atLeast (k : Int) : Bool := compareScaled m q 0 1 0 k != .lt
  let k1 := if atLeast (k0 + 1) then k0 + 1 else if atLeast k0 then k0 else k0 - 1
  if atLeast (k1 + 1) then k1 + 1 else if atLeast k1 then k1 else k1 - 1

/-- How a tie between two equally near decimals of the same length is settled. -/
inductive Tie where
  /-- The one with the even last digit. -/
  | even
  /-- The one of larger magnitude. -/
  | up
  deriving DecidableEq, Repr

/-- The interval of reals that round to `m · 2 ^ q`, in units of `2 ^ (q - 2)`: its exact
value `4m`, its ends, and whether the ends belong to it (they do for an even `m`). The
lower gap is halved at a power of two above the least normal exponent. -/
structure Rounding where
  /-- The significand. -/
  m : Nat
  /-- The binary exponent. -/
  q : Int
  /-- Whether the lower neighbour is nearer, at a power of two. -/
  narrowBelow : Bool

namespace Rounding

/-- The lower end of the interval, in units of `2 ^ (q - 2)`. -/
def low (r : Rounding) : Nat := if r.narrowBelow then 4 * r.m - 1 else 4 * r.m - 2

/-- The upper end of the interval, in units of `2 ^ (q - 2)`. -/
def high (r : Rounding) : Nat := 4 * r.m + 2

/-- Whether `c · 10 ^ g` rounds to the value. -/
def contains (r : Rounding) (c : Nat) (g : Int) : Bool :=
  let lo := compareScaled c 0 g (r.low) (r.q - 2) 0
  let hi := compareScaled c 0 g (r.high) (r.q - 2) 0
  if r.m % 2 = 0 then lo != .lt && hi != .gt else lo == .gt && hi == .lt

/-- Which of two decimals on the grid `10 ^ g` is nearer to the value: `.lt` when `a` is. -/
def nearer (r : Rounding) (a b : Nat) (g : Int) : Ordering :=
  -- For `a < b`, `a` is nearer exactly when twice the value lies below `(a + b) · 10 ^ g`.
  compareScaled (4 * r.m * 2) (r.q - 2) 0 (a + b) 0 g

/-- The choice on the grid `10 ^ g`: of the two neighbours of the value, those in the
interval, the nearer, and of two equally near the one `tie` picks. -/
def onGrid (r : Rounding) (tie : Tie) (g : Int) : Option Nat :=
  let lo := floorScaled (4 * r.m) (r.q - 2) g
  let hi := lo + 1
  match r.contains lo g, r.contains hi g with
  | true, true =>
    match r.nearer lo hi g with
    | .lt => some lo
    | .gt => some hi
    | .eq => some (if tie = .even ∧ lo % 2 = 0 then lo else hi)
  | true, false => some lo
  | false, true => some hi
  | false, false => none

/-- Tries the grids of `n`, `n + 1`, … significant digits below the leading power `k`;
the grid of seventeen digits always has a hit, and `fuel` ends the search there. -/
def search (r : Rounding) (tie : Tie) (k : Int) : Nat → Nat → Digits
  | _, 0 => ⟨floorScaled (4 * r.m) (r.q - 2) (k - 16), k - 16⟩
  | n, fuel + 1 =>
    let g := k - (n : Int) + 1
    match r.onGrid tie g with
    | some c => ⟨c, g⟩
    | none => search r tie k (n + 1) fuel

end Rounding

/-- The shortest decimal that rounds to the positive binary value `m · 2 ^ q`, nearest of
those on a tie of length. -/
def shortestOf (tie : Tie) (m : Nat) (q : Int) : Digits :=
  let r : Rounding := ⟨m, q, m = hiddenBit ∧ q > -1074⟩
  (r.search tie (leadingExponent m q) 1 17).normalize 400

/-- The shortest decimal that reads back as `f`, with its sign, for a finite `f`;
`none` for an infinity or NaN. Zero gives zero digits. -/
def shortest (tie : Tie) (f : Float) : Option (Bool × Digits) :=
  (binary f).map fun (negative, m, q) =>
    if m = 0 then (negative, ⟨0, 0⟩) else (negative, shortestOf tie m q)

end BlockProgram.Decimal
