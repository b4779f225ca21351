import BlockProgram.Error

/-! # Scaling delay units

Delay counts go on the wire multiplied by a factor, in double arithmetic, and written
positionally with the fewest digits that read back (`Decimal.Layout.plain`): three units at
`0.1` are `0.30000000000000004`. A factor must be finite and not negative; `-0.0` passes.
-/

namespace BlockProgram

/-- A multiplier for delay units: finite and not negative. -/
structure Scale where
  /-- The multiplier. -/
  factor : Float
  deriving Inhabited

namespace Scale

/-- Units sent unchanged. -/
def identity : Scale := ⟨1.0⟩

/-- The scale with a factor, which must be finite and at least zero. -/
def ofFactor (f : Float) : Except Error Scale :=
  if !f.isNaN && !f.isInf && f ≥ 0 then .ok ⟨f⟩ else .error (.invalidScale f)

/-- The text of `units` scaled: the count converted to the nearest double, multiplied by
the factor, written positionally. -/
def apply (s : Scale) (units : Nat) : String :=
  Decimal.Layout.plain.render (Decimal.ofNat units * s.factor)

end Scale

end BlockProgram
