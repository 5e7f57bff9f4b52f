import IdentityGateway.Unicode.Data.Joining

/-!
# Joining and marks

How letters of cursive scripts join, and which characters are marks on another one.
-/

namespace IdentityGateway.Unicode

/-- How a character joins its neighbours. -/
inductive Joining where
  | none
  | transparent
  | left
  | right
  | dual
  | causing
  deriving DecidableEq, Repr

/-- The way of joining of a number in the table. -/
def Joining.ofIndex : Nat → Joining
  | 1 => .transparent
  | 2 => .left
  | 3 => .right
  | 4 => .dual
  | 5 => .causing
  | _ => .none

/-- How a code point joins. -/
def joining (n : Nat) : Joining :=
  Joining.ofIndex ((Tagged.find? joiningRanges n).getD 0)

/-- Whether a code point is a mark. -/
def isMark (n : Nat) : Bool :=
  Text.CharRange.contains markRanges n

end IdentityGateway.Unicode
