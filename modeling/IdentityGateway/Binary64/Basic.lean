/-!
# Double-precision numbers

Finite numbers of the 64-bit binary format, kept as their bits, and the number nearest
to a decimal significand with a power of ten, computed with one rounding a step.
-/

namespace IdentityGateway

/-- A number of the 64-bit binary format. -/
structure Binary64 where
  bits : UInt64
  deriving DecidableEq, Repr

namespace Binary64

/-- Whether the sign bit is set. -/
def isNegative (x : Binary64) : Bool :=
  x.bits.toNat / Nat.pow 2 63 == 1

/-- The eleven bits that say where the leading bit of the number stands. -/
def exponentField (x : Binary64) : Nat :=
  x.bits.toNat / Nat.pow 2 52 % Nat.pow 2 11

/-- The 52 bits behind the leading one. -/
def fractionField (x : Binary64) : Nat :=
  x.bits.toNat % Nat.pow 2 52

/-- The number without its sign is this many halves of `2 ^ scale`, doubled. -/
def significand (x : Binary64) : Nat :=
  if x.exponentField = 0 then x.fractionField else x.fractionField + Nat.pow 2 52

/-- The power of two that the significand counts. -/
def scale (x : Binary64) : Int :=
  if x.exponentField = 0 then -1074 else (x.exponentField : Int) - 1075

/-- The number with the opposite sign if `negative` is set. -/
def withSign (negative : Bool) (x : Float) : Binary64 :=
  ⟨(if negative then -x else x).toBits⟩

/-- The greatest power of ten by which one step multiplies or divides. -/
def greatestStep : Nat := 308

/-- A power of ten, which is in range for the exponents of one step. -/
def powerOfTen (exponent : Nat) : Float :=
  Float.ofScientific 1 false exponent

/-- The number divided by a power of ten, in steps while it is not zero. -/
def divideByPower (x : Float) : Nat → Nat → Float
  | 0, _ => x
  | fuel + 1, exponent =>
    if exponent ≤ greatestStep then x / powerOfTen exponent
    else if x == 0 then x
    else divideByPower (x / powerOfTen greatestStep) fuel (exponent - greatestStep)

/-- The number a significand times a power of ten is read as, if it is finite. Each step
rounds, so far from zero the last digit may differ from the nearest one. -/
def ofDecimal? (negative : Bool) (significand : Nat) (exponent : Int) : Option Binary64 :=
  let x := significand.toUInt64.toFloat
  if exponent < 0 then
    some (withSign negative (divideByPower x 8 exponent.natAbs))
  else if exponent ≤ greatestStep then
    let y := x * powerOfTen exponent.toNat
    if y.isInf then none else some (withSign negative y)
  else if x == 0 then some (withSign negative x)
  else none

end Binary64

end IdentityGateway
