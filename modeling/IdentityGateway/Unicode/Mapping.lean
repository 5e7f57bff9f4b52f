import IdentityGateway.Text.Blank
import IdentityGateway.Unicode.Data.Mapping

/-!
# Mapping of host names

What becomes of each code point of a host name before it is compared: it stays, is
dropped, is replaced, or makes the name unusable. ASCII and blanks follow rules, all else
is looked up.
-/

namespace IdentityGateway.Unicode

open Text (CharRange)

/-- What becomes of a code point of a host name. -/
inductive Treatment where
  | valid
  | ignored
  | replaced (targets : List Nat)
  | disallowed
  deriving DecidableEq, Repr

/-- ASCII stays, but for capital letters. -/
def asciiTreatment (n : Nat) : Treatment :=
  if 0x41 ≤ n ∧ n ≤ 0x5A then .replaced [n + 0x20] else .valid

/-- Blanks beyond ASCII become the space, unless they separate lines or are the mark that
only looks like a blank in some fonts. -/
def blankTreatment (n : Nat) : Treatment :=
  if n = 0x1680 ∨ n = 0x2028 ∨ n = 0x2029 then .disallowed else .replaced [0x20]

/-- What becomes of a code point that is neither ASCII nor a blank. -/
def listedTreatment (n : Nat) : Treatment :=
  if CharRange.contains validRanges n then .valid
  else match shifts.findSome? (Shift.image? n) with
    | some m => .replaced [m]
    | none => match Spelling.find? spellings n with
      | some ms => .replaced ms
      | none => if CharRange.contains ignoredRanges n then .ignored else .disallowed

/-- What becomes of a code point. Controls beyond ASCII are disallowed. -/
def treatment (n : Nat) : Treatment :=
  if n < 0x80 then asciiTreatment n
  else if n < 0xA0 then .disallowed
  else if Text.isBlankCode n then blankTreatment n
  else listedTreatment n

end IdentityGateway.Unicode
