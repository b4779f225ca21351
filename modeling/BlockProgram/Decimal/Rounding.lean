/-! # Rounding exact values to double precision

A double is a sign, an 11-bit biased exponent and a 52-bit fraction. This module reads
those fields off a `Float` and builds the double nearest to an exact rational value, with
ties going to the even significand, in exact `Nat` arithmetic. Everything that reads a
decimal number, and everything that converts a large integer, goes through
`Decimal.roundRatio`, so there is one rounding rule in the library.
-/

namespace BlockProgram.Decimal

/-- The fields of a double: its sign bit, its biased exponent (0 to 2047) and its
52-bit fraction. -/
structure Fields where
  /-- Whether the sign bit is set. -/
  negative : Bool
  /-- The biased exponent, 0 for zero and subnormals, 2047 for infinities and NaN. -/
  biased : Nat
  /-- The 52 fraction bits. -/
  fraction : Nat
  deriving Repr, DecidableEq

/-- Two to the 52nd, the weight of the hidden bit of a normal double. -/
def hiddenBit : Nat := Nat.pow 2 52

/-- The fields of a double, read off its bits. -/
def fields (f : Float) : Fields :=
  let b := f.toBits.toNat
  { negative := b / Nat.pow 2 63 % 2 == 1
    biased := b / Nat.pow 2 52 % 2048
    fraction := b % hiddenBit }

/-- A finite double as an exact binary value `significand · 2 ^ exponent`, or `none` for an
infinity or NaN. The significand carries the hidden bit of normal numbers. -/
def binary (f : Float) : Option (Bool × Nat × Int) :=
  let p := fields f
  if p.biased = 2047 then none
  else if p.biased = 0 then some (p.negative, p.fraction, -1074)
  else some (p.negative, p.fraction + hiddenBit, (p.biased : Int) - 1075)

/-- The double with the given sign whose magnitude is `significand · 2 ^ exponent`, for a
significand of at most 53 bits that is already rounded to the grid of doubles: below the
hidden bit only at the least exponent -1074. Magnitudes from `2 ^ 1024` up give infinity. -/
def assemble (negative : Bool) (significand : Nat) (exponent : Int) : Float :=
  let sign := if negative then Nat.pow 2 63 else 0
  let bits :=
    if significand < hiddenBit then significand
    else if exponent + 1075 ≥ 2047 then 2047 * hiddenBit
    else (exponent + 1075).toNat * hiddenBit + (significand - hiddenBit)
  Float.ofBits (UInt64.ofNat (sign + bits))

/-- Decides a rounding step: keep the quotient `q` when the remainder is below half the
divisor, add one above half, and on an exact half make `q` even. -/
def roundHalfEven (q r d : Nat) : Nat :=
  if 2 * r < d then q
  else if 2 * r > d then q + 1
  else if q % 2 = 0 then q else q + 1

/-- The exponent at which a positive ratio `num / den` has a significand of 53 bits, or
the least exponent -1074 when the ratio is below the normal range. -/
def ratioExponent (num den : Nat) : Int :=
  -- With `a` and `b` the bit lengths less one, `num / den` lies strictly between
  -- `2 ^ (a - b - 1)` and `2 ^ (a - b + 1)`, so the quotient at the estimate has 52 or 53
  -- bits and one step down fixes the first case.
  let e : Int := (num.log2 : Int) - (den.log2 : Int) - 52
  let q := if e ≥ 0 then num / (den * Nat.pow 2 e.toNat) else num * Nat.pow 2 (-e).toNat / den
  max (if q < hiddenBit then e - 1 else e) (-1074)

/-- The double nearest to `num / den` with the given sign, ties to the even significand;
zero when `num` is zero, and infinity when the ratio rounds to `2 ^ 1024` or more. -/
def roundRatio (negative : Bool) (num den : Nat) : Float :=
  if num = 0 ∨ den = 0 then assemble negative 0 0
  else
    let e := ratioExponent num den
    let (n, d) :=
      if e ≥ 0 then (num, den * Nat.pow 2 e.toNat) else (num * Nat.pow 2 (-e).toNat, den)
    let q := roundHalfEven (n / d) (n % d) d
    -- Rounding up can carry into a 54th bit; the value is then a power of two.
    if q ≥ Nat.pow 2 53 then assemble negative (q / 2) (e + 1) else assemble negative q e

/-- The double nearest to the integer `n`, ties to even. -/
def ofNat (n : Nat) : Float := roundRatio false n 1

/-- The double nearest to the integer `n`, ties to even, keeping the sign. -/
def ofInt (n : Int) : Float := roundRatio (n < 0) n.natAbs 1

/-- The number of decimal digits of `n`, one for zero. -/
def decimalLength (n : Nat) : Nat := (Nat.toDigits 10 n).length

/-- The double nearest to `m · 10 ^ e`, ties to even: the correctly rounded reading of a
decimal. Exponents far outside the range of doubles are settled without computing the
power: from `10 ^ 310` up the value is infinite, below `10 ^ -330` it rounds to zero. -/
def ofDecimal (negative : Bool) (m : Nat) (e : Int) : Float :=
  let lead := (decimalLength m : Int) + e
  if m = 0 ∨ lead < -330 then assemble negative 0 0
  else if lead > 310 then assemble negative (Nat.pow 2 53) 971
  else if e ≥ 0 then roundRatio negative (m * Nat.pow 10 e.toNat) 1
  else roundRatio negative m (Nat.pow 10 (-e).toNat)

end BlockProgram.Decimal
