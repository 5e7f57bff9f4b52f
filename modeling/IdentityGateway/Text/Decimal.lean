/-!
# Decimal numerals

Reading unsigned numerals below a bound, and writing numbers with a least number of
digits.
-/

namespace IdentityGateway.Text

/-- The value of an ASCII digit. -/
def digit? (c : Char) : Option Nat :=
  if '0' ≤ c ∧ c ≤ '9' then some (c.toNat - 48) else none

/-- The value of a run of digits read after `value`. -/
def digits? (value : Nat) : List Char → Option Nat
  | [] => some value
  | c :: cs => (digit? c).bind fun d => digits? (10 * value + d) cs

/-- An unsigned numeral below `bound`: an optional plus sign and at least one digit. -/
def natBelow? (bound : Nat) (s : String) : Option Nat :=
  let cs := match s.toList with
    | '+' :: cs => cs
    | cs => cs
  if cs.isEmpty then none
  else (digits? 0 cs).filter (· < bound)

/-- The digits of a number, most significant first, before `rest`. -/
def natDigits (n : Nat) : List Char :=
  Nat.toDigits 10 n

/-- A number written with at least `width` digits. -/
def padded (width n : Nat) : List Char :=
  let ds := natDigits n
  List.replicate (width - ds.length) '0' ++ ds

end IdentityGateway.Text
