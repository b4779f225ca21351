import BlockProgram.Decimal.Shortest

/-! # Writing a double in positional or scientific layout

The digits of a double come from `Decimal.shortest`; a `Layout` record decides the rest:
which leading powers of ten are written positionally, whether a whole number keeps a
`.0`, how the exponent is marked, and the words for infinities and NaN. Two layouts are
used: `Layout.json` for floats in JSON text, and `Layout.plain` for numbers written into
command lines and messages, which never use an exponent.
-/

namespace BlockProgram.Decimal

/-- The choices of a textual layout for doubles. -/
structure Layout where
  /-- The least power of ten of the leading digit written positionally. -/
  minPositional : Int
  /-- The greatest power of ten of the leading digit written positionally. -/
  maxPositional : Int
  /-- Whether a whole number written positionally ends in `.0`. -/
  pointZero : Bool
  /-- Whether a non-negative exponent is written with a `+`. -/
  plusExponent : Bool
  /-- The text of a positive infinity. -/
  infinity : String
  /-- The text of a NaN. -/
  notANumber : String
  /-- The text of a negative infinity. -/
  negativeInfinity : String
  /-- How a tie between two equally near shortest digit strings is settled. -/
  tie : Tie

/-- Floats in JSON text: positional for leading powers `-5` to `15` with `.0` on whole
numbers, `1e+16` and `1e-7` beyond; infinities and NaN have no JSON form and are written
`null`. Ties of shortest digits go to the even digit. -/
def Layout.json : Layout :=
  { minPositional := -5, maxPositional := 15, pointZero := true, plusExponent := true,
    infinity := "null", notANumber := "null", negativeInfinity := "null", tie := .even }

/-- Numbers in command lines and messages: always positional, no `.0` on whole numbers,
`inf`, `-inf` and `NaN`. Ties of shortest digits go to the larger magnitude. -/
def Layout.plain : Layout :=
  { minPositional := -100000, maxPositional := 100000, pointZero := false,
    plusExponent := false, infinity := "inf", notANumber := "NaN",
    negativeInfinity := "-inf", tie := .up }

/-- `n` copies of the digit zero. -/
def zeros (n : Nat) : String := String.ofList (List.replicate n '0')

/-- The digits `s` (of a number `d · 10 ^ e`, `s` without trailing zero) written
positionally. -/
def positional (l : Layout) (s : String) (e : Int) : String :=
  let lead := (s.length : Int) - 1 + e
  if e ≥ 0 then
    s ++ zeros e.toNat ++ (if l.pointZero then ".0" else "")
  else if lead ≥ 0 then
    let cut := (lead + 1).toNat
    String.ofList (s.toList.take cut) ++ "." ++ String.ofList (s.toList.drop cut)
  else
    "0." ++ zeros (-lead - 1).toNat ++ s

/-- The digits `s` written as a leading digit, the other digits after a point, and an
exponent. -/
def scientific (l : Layout) (s : String) (e : Int) : String :=
  let lead := (s.length : Int) - 1 + e
  let mantissa :=
    match s.toList with
    | [] => "0"
    | [c] => String.singleton c
    | c :: rest => String.singleton c ++ "." ++ String.ofList rest
  let sign := if lead < 0 then "-" else if l.plusExponent then "+" else ""
  mantissa ++ "e" ++ sign ++ toString lead.natAbs

/-- Writes a double in the layout `l`. -/
def Layout.render (l : Layout) (f : Float) : String :=
  match shortest l.tie f with
  | none => if f.isNaN then l.notANumber else if f < 0 then l.negativeInfinity else l.infinity
  | some (negative, d) =>
    let sign := if negative then "-" else ""
    if d.digits = 0 then sign ++ (if l.pointZero then "0.0" else "0")
    else
      let s := toString d.digits
      let lead := (s.length : Int) - 1 + d.exponent
      if l.minPositional ≤ lead ∧ lead ≤ l.maxPositional then sign ++ positional l s d.exponent
      else sign ++ scientific l s d.exponent

end BlockProgram.Decimal
