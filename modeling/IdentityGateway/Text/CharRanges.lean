import IdentityGateway.Text.Decimal

/-!
# Ranges of code points

Sets of code points as increasing ranges, and their compact text: for each range the gap
since the end of the one before it and the number of further code points it has.
-/

namespace IdentityGateway.Text

/-- The code points from `first` to `last`. -/
structure CharRange where
  first : Nat
  last : Nat
  deriving DecidableEq, Repr

/-- The numbers of rows of numerals separated by blanks. -/
def numbersOfRows (rows : List String) : List Nat :=
  rows.flatMap fun row => (splitOn row).filterMap (digits? 0)
where
  /-- The words of a row. -/
  splitOn (row : String) : List (List Char) :=
    (row.toList.foldr (fun c (words : List (List Char)) =>
      if c = ' ' then [] :: words
      else match words with
        | [] => [[c]]
        | word :: words => (c :: word) :: words) [[]]).filter fun word => !word.isEmpty

namespace CharRange

/-- The ranges after code point `last`, from gaps and lengths. -/
def ofGaps (last : Nat) : List Nat → List CharRange
  | gap :: more :: rest =>
    let first := last + gap
    ⟨first, first + more⟩ :: ofGaps (first + more) rest
  | _ => []

/-- The ranges of rows of gaps and lengths. -/
def ofRows (rows : List String) : List CharRange :=
  ofGaps 0 (numbersOfRows rows)

/-- Whether one of the ranges has the code point. -/
def contains (ranges : List CharRange) (n : Nat) : Bool :=
  ranges.any fun r => r.first ≤ n && n ≤ r.last

end CharRange

end IdentityGateway.Text
