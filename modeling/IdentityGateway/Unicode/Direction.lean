import IdentityGateway.Unicode.Data.Direction

/-!
# Writing direction

The bidirectional class of each code point, as far as the rule for labels of host names
tells classes apart.
-/

namespace IdentityGateway.Unicode

/-- The classes that the rule for labels tells apart. -/
inductive Direction where
  | leftToRight
  | rightToLeft
  | arabicLetter
  | arabicNumber
  | europeanNumber
  | europeanSeparator
  | commonSeparator
  | europeanTerminator
  | otherNeutral
  | boundaryNeutral
  | nonspacingMark
  | other
  deriving DecidableEq, Repr

/-- The class of a number in the table. -/
def Direction.ofIndex : Nat → Direction
  | 0 => .leftToRight
  | 1 => .rightToLeft
  | 2 => .arabicLetter
  | 3 => .arabicNumber
  | 4 => .europeanNumber
  | 5 => .europeanSeparator
  | 6 => .commonSeparator
  | 7 => .europeanTerminator
  | 8 => .otherNeutral
  | 9 => .boundaryNeutral
  | 10 => .nonspacingMark
  | _ => .other

/-- The class of a code point. -/
def direction (n : Nat) : Direction :=
  Direction.ofIndex ((Tagged.find? directionRanges n).getD 0)

end IdentityGateway.Unicode
