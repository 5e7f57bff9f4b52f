import IdentityGateway.Unicode.Direction
import IdentityGateway.Unicode.Joining
import IdentityGateway.Unicode.Normal

/-!
# Labels of host names

The conditions on a label beyond its code points: no mark comes first, joiners stand
where they matter, and labels of a name with right-to-left text do not mix directions.
-/

namespace IdentityGateway.Host

open Unicode (Direction Joining)

/-- The class of marks that suppress a vowel. -/
def viramaClass : Nat := 9

/-- The code point that keeps letters apart. -/
def nonJoiner : Nat := 0x200C

/-- The code point that joins letters. -/
def joiner : Nat := 0x200D

/-- The first way of joining that is not transparent. -/
def firstOpaque (text : List Nat) : Joining :=
  ((text.map Unicode.joining).find? (· != .transparent)).getD .none

/-- Whether a joiner may stand between what is before it, in reverse, and after it. -/
def joinerAllowed (n : Nat) (before after : List Nat) : Bool :=
  let afterVirama := match before with
    | p :: _ => Unicode.combiningClass p == viramaClass
    | [] => false
  afterVirama || (n == nonJoiner &&
    (firstOpaque before == .left || firstOpaque before == .dual) &&
    (firstOpaque after == .right || firstOpaque after == .dual))

/-- Whether all joiners of a text stand where they may; `before` is in reverse. -/
def joinersAllowed (before : List Nat) : List Nat → Bool
  | [] => true
  | n :: rest =>
    (if n = nonJoiner ∨ n = joiner then joinerAllowed n before rest else true) &&
      joinersAllowed (n :: before) rest

/-- Whether a mark comes first. -/
def startsWithMark : List Nat → Bool
  | [] => false
  | n :: _ => Unicode.isMark n

/-- Whether a class makes a name one with right-to-left text. -/
def isRightToLeft : Direction → Bool
  | .rightToLeft | .arabicLetter | .arabicNumber => true
  | _ => false

/-- Whether a class may stand in a label from left to right. -/
def allowedLeftToRight : Direction → Bool
  | .leftToRight | .europeanNumber | .europeanSeparator | .commonSeparator
  | .europeanTerminator | .otherNeutral | .boundaryNeutral | .nonspacingMark => true
  | _ => false

/-- Whether a class may stand in a label from right to left. -/
def allowedRightToLeft : Direction → Bool
  | .rightToLeft | .arabicLetter | .arabicNumber | .europeanNumber | .europeanSeparator
  | .commonSeparator | .europeanTerminator | .otherNeutral | .boundaryNeutral
  | .nonspacingMark => true
  | _ => false

/-- The last class that is not that of a mark. -/
def lastSpacing? (classes : List Direction) : Option Direction :=
  classes.reverse.find? (· != .nonspacingMark)

/-- Whether the classes of a label do not mix directions. -/
def directionsAllowed (classes : List Direction) : Bool :=
  let last := (lastSpacing? classes).getD .other
  match classes with
  | [] => true
  | .leftToRight :: _ =>
    classes.all allowedLeftToRight && (last == .leftToRight || last == .europeanNumber)
  | .rightToLeft :: _ | .arabicLetter :: _ =>
    classes.all allowedRightToLeft &&
      (last == .rightToLeft || last == .arabicLetter || last == .europeanNumber ||
        last == .arabicNumber) &&
      !(classes.contains .europeanNumber && classes.contains .arabicNumber)
  | _ => false

end IdentityGateway.Host
