import IdentityGateway.Text.CharRanges

/-!
# Rows of code point data

Compact tables over code points: runs with a constant distance to their images, code
points with several images, ranges with a number, and pairs with an image. Every entry
starts with the gap since the one before it.
-/

namespace IdentityGateway.Unicode

/-- Code points `first`, `first + step`, … whose images keep their distances. -/
structure Shift where
  first : Nat
  count : Nat
  step : Nat
  target : Nat
  deriving DecidableEq, Repr

/-- The runs after code point `last`: gap, count, step and first image. -/
def Shift.ofNumbers (last : Nat) : List Nat → List Shift
  | gap :: count :: step :: target :: rest =>
    ⟨last + gap, count, step, target⟩ :: Shift.ofNumbers (last + gap) rest
  | _ => []

/-- The image of a code point, if the run has it. -/
def Shift.image? (n : Nat) (run : Shift) : Option Nat :=
  let distance := n - run.first
  if run.first ≤ n ∧ distance % run.step = 0 ∧ distance / run.step < run.count then
    some (run.target + distance)
  else none

/-- A code point and its images in order. -/
structure Spelling where
  source : Nat
  targets : List Nat
  deriving DecidableEq, Repr

namespace Spelling

/-- The entries after code point `last`: gap, count and images. -/
def ofNumbers (last : Nat) : Nat → List Nat → List Spelling
  | 0, _ => []
  | fuel + 1, gap :: count :: rest =>
    ⟨last + gap, rest.take count⟩ :: ofNumbers (last + gap) fuel (rest.drop count)
  | _ + 1, _ => []

/-- The entries of rows of numerals. -/
def ofRows (rows : List String) : List Spelling :=
  let numbers := Text.numbersOfRows rows
  ofNumbers 0 numbers.length numbers

/-- The images of a code point, if there is an entry for it. -/
def find? (entries : List Spelling) (n : Nat) : Option (List Nat) :=
  (entries.find? fun e => e.source == n).map Spelling.targets

end Spelling

/-- A range of code points with a number. -/
structure Tagged where
  first : Nat
  last : Nat
  tag : Nat
  deriving DecidableEq, Repr

namespace Tagged

/-- The ranges after code point `last`: gap, length and number. -/
def ofNumbers (last : Nat) : List Nat → List Tagged
  | gap :: more :: tag :: rest =>
    ⟨last + gap, last + gap + more, tag⟩ :: ofNumbers (last + gap + more) rest
  | _ => []

/-- The ranges of rows of numerals. -/
def ofRows (rows : List String) : List Tagged :=
  ofNumbers 0 (Text.numbersOfRows rows)

/-- The number of the range that has a code point. -/
def find? (ranges : List Tagged) (n : Nat) : Option Nat :=
  (ranges.find? fun r => r.first ≤ n && n ≤ r.last).map Tagged.tag

end Tagged

/-- Two code points and their image. -/
structure Pairing where
  left : Nat
  right : Nat
  image : Nat
  deriving DecidableEq, Repr

namespace Pairing

/-- The pairs after first code point `last`: gap, second and image. -/
def ofNumbers (last : Nat) : List Nat → List Pairing
  | gap :: right :: image :: rest =>
    ⟨last + gap, right, image⟩ :: ofNumbers (last + gap) rest
  | _ => []

/-- The image of a pair. -/
def find? (pairs : List Pairing) (left right : Nat) : Option Nat :=
  (pairs.find? fun p => p.left == left && p.right == right).map Pairing.image

end Pairing

end IdentityGateway.Unicode
