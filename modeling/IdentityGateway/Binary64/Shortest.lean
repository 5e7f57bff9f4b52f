import IdentityGateway.Binary64.Basic

/-!
# Shortest decimals

The decimal with the fewest digits that is read back as a given double-precision number,
and the nearest of those. A decimal is read back exactly if it lies between the midpoints
to the neighbouring numbers, which themselves belong to even significands.
-/

namespace IdentityGateway.Binary64

/-- Digits and the place of the decimal point: `0.digits × 10 ^ point`. -/
structure Decimal where
  digits : List Char
  point : Int
  deriving DecidableEq, Repr

/-- A positive fraction. -/
structure Ratio where
  num : Nat
  den : Nat
  deriving DecidableEq, Repr

/-- `count` times a power of two. -/
def Ratio.ofScaled (count : Nat) (scale : Int) : Ratio :=
  if 0 ≤ scale then ⟨count * Nat.pow 2 scale.toNat, 1⟩ else ⟨count, Nat.pow 2 scale.natAbs⟩

/-- A fraction divided by a power of ten. -/
def Ratio.shift (r : Ratio) (exponent : Int) : Ratio :=
  if 0 ≤ exponent then ⟨r.num, r.den * Nat.pow 10 exponent.toNat⟩
  else ⟨r.num * Nat.pow 10 exponent.natAbs, r.den⟩

/-- The interval of numbers that are read back as a given one. -/
structure Neighbourhood where
  low : Ratio
  value : Ratio
  high : Ratio
  /-- Whether the ends are read back too. -/
  closed : Bool
  deriving DecidableEq, Repr

/-- The interval around a number other than zero. The lower gap is halved at a power of
two. -/
def neighbourhood (x : Binary64) : Neighbourhood :=
  let m := x.significand
  let quarter := x.scale - 2
  let below := if x.fractionField = 0 ∧ 1 < x.exponentField then 1 else 2
  { low := .ofScaled (4 * m - below) quarter
    value := .ofScaled (4 * m) quarter
    high := .ofScaled (4 * m + 2) quarter
    closed := m % 2 == 0 }

/-- Whether an integer lies in the interval scaled by a power of ten. -/
def Neighbourhood.accepts (n : Neighbourhood) (exponent : Int) (candidate : Nat) : Bool :=
  let low := n.low.shift exponent
  let high := n.high.shift exponent
  if n.closed then low.num ≤ candidate * low.den && candidate * high.den ≤ high.num
  else low.num < candidate * low.den && candidate * high.den < high.num

/-- The integer nearest to a fraction, the even one of two that are equally near. -/
def Ratio.nearest (r : Ratio) : Nat :=
  let below := r.num / r.den
  let twice := 2 * (r.num - below * r.den)
  if twice < r.den ∨ (twice = r.den ∧ below % 2 = 0) then below else below + 1

/-- The integer next to the value on the scale of a power of ten that is read back. -/
def Neighbourhood.onGrid? (n : Neighbourhood) (exponent : Int) : Option Nat :=
  let v := n.value.shift exponent
  let below := v.num / v.den
  match n.accepts exponent below, n.accepts exponent (below + 1) with
  | true, true => some v.nearest
  | true, false => some below
  | false, true => some (below + 1)
  | false, false => none

/-- The first grid with a hit, from coarse to fine. -/
def Neighbourhood.search (n : Neighbourhood) (point : Int) : Nat → Nat → Nat × Int
  | 0, _ => (0, point)
  | fuel + 1, count =>
    let exponent := point - count
    match n.onGrid? exponent with
    | some digits => (digits, exponent)
    | none => search n point fuel (count + 1)

/-- The least power of ten above the value, searched upward from `point`. -/
def Neighbourhood.pointFrom (n : Neighbourhood) (point : Int) : Nat → Int
  | 0 => point
  | fuel + 1 =>
    let v := n.value.shift point
    if v.num < v.den then point else pointFrom n (point + 1) fuel

/-- A digit string without the zeros at its end. -/
def withoutTrailingZeros (digits : List Char) : List Char :=
  (digits.reverse.dropWhile (· == '0')).reverse

/-- The shortest decimal of a number other than zero. -/
def shortest (x : Binary64) : Decimal :=
  let n := x.neighbourhood
  let point := n.pointFrom (-330) 700
  let (value, exponent) := n.search point 18 0
  let digits := Nat.toDigits 10 value
  ⟨withoutTrailingZeros digits, exponent + digits.length⟩

/-- The text of a decimal: positional with at least one digit on each side of the point
for powers from -4 to 16, otherwise one digit, a fraction and a signed exponent. -/
def Decimal.text (d : Decimal) : List Char :=
  let count : Int := d.digits.length
  if 0 < d.point ∧ d.point ≤ 16 then
    if count ≤ d.point then
      d.digits ++ List.replicate (d.point - count).toNat '0' ++ ['.', '0']
    else d.digits.take d.point.toNat ++ '.' :: d.digits.drop d.point.toNat
  else if -5 < d.point ∧ d.point ≤ 0 then
    '0' :: '.' :: List.replicate d.point.natAbs '0' ++ d.digits
  else
    let power := d.point - 1
    let sign := if power < 0 then '-' else '+'
    let fraction := match d.digits.drop 1 with
      | [] => []
      | rest => '.' :: rest
    d.digits.take 1 ++ fraction ++ 'e' :: sign :: Nat.toDigits 10 power.natAbs

/-- The shortest text that is read back as a finite number. -/
def text (x : Binary64) : String :=
  let sign := if x.isNegative then ['-'] else []
  if x.significand = 0 then String.ofList (sign ++ ['0', '.', '0'])
  else String.ofList (sign ++ x.shortest.text)

end IdentityGateway.Binary64
