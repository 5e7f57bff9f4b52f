import IdentityGateway.Unicode.Data.Composition

/-!
# Composed normal form

Text is decomposed, marks are put in the order of their classes, and neighbours are
composed again, so that canonically equal texts become the same.
-/

namespace IdentityGateway.Unicode

/-- The first code point that combines with one before it. -/
def firstMark : Nat := 0x300

/-- The first code point that has a decomposition. -/
def firstDecomposed : Nat := 0xC0

/-- Whether others may combine with a code point. In ASCII they do with letters and with the signs
that compare. -/
def isBase (n : Nat) : Bool :=
  (0x3C ≤ n && n ≤ 0x3E) || (0x41 ≤ n && n ≤ 0x5A) || (0x61 ≤ n && n ≤ 0x7A) || 0x80 ≤ n

/-- The combining class of a code point. -/
def combiningClass (n : Nat) : Nat :=
  if n < firstMark then 0 else (Tagged.find? classRanges n).getD 0

/-- The first Hangul syllable. -/
def hangulBase : Nat := 0xAC00

/-- The number of Hangul syllables. -/
def hangulCount : Nat := 11172

/-- A Hangul syllable taken apart into its two or three letters, which is computed and not looked
up. -/
def hangulParts (n : Nat) : List Nat :=
  let index := n - hangulBase
  let trailing := index % 28
  [0x1100 + index / 588, 0x1161 + index % 588 / 28] ++
    (if trailing = 0 then [] else [0x11A7 + trailing])

/-- Whether a code point is a Hangul syllable. -/
def isHangul (n : Nat) : Bool :=
  hangulBase ≤ n && n < hangulBase + hangulCount

/-- The full decomposition of a code point. -/
def decompose (n : Nat) : List Nat :=
  if n < firstDecomposed then [n]
  else if isHangul n then hangulParts n
  else (Spelling.find? decompositions n).getD [n]

/-- Puts a code point in front of those before it, behind marks of higher classes. The
text is in reverse. -/
def insertMark (n : Nat) : List Nat → List Nat
  | [] => [n]
  | p :: ps =>
    if combiningClass n ≠ 0 ∧ combiningClass n < combiningClass p then p :: insertMark n ps
    else n :: p :: ps

/-- The canonical decomposition of a text. -/
def decomposed (text : List Nat) : List Nat :=
  ((text.flatMap decompose).foldl (fun acc n => insertMark n acc) []).reverse

/-- The image of two neighbours that compose. -/
def compose? (left right : Nat) : Option Nat :=
  if !isBase left || right < firstMark then none
  else if 0x1100 ≤ left ∧ left < 0x1113 ∧ 0x1161 ≤ right ∧ right < 0x1176 then
    some (hangulBase + ((left - 0x1100) * 21 + (right - 0x1161)) * 28)
  else if isHangul left ∧ (left - hangulBase) % 28 = 0 ∧ 0x11A7 < right ∧ right < 0x11C3 then
    some (left + (right - 0x11A7))
  else Pairing.find? compositions left right

/-- A text being composed: what is done, in reverse, then a starter and the marks after
it that did not compose, in reverse. -/
structure Composing where
  done : List Nat
  starter : Option Nat
  marks : List Nat
  deriving DecidableEq, Repr

namespace Composing

/-- Everything read so far, in reverse. -/
def flush (c : Composing) : List Nat :=
  match c.starter with
  | none => c.done
  | some s => c.marks ++ s :: c.done

/-- Whether the marks kept back let a code point reach the starter. -/
def reaches (c : Composing) (n : Nat) : Bool :=
  match c.marks with
  | [] => true
  | m :: _ => combiningClass m < combiningClass n

/-- Reads a code point that does not compose. -/
def keep (c : Composing) (n : Nat) : Composing :=
  if combiningClass n = 0 then ⟨c.flush, some n, []⟩
  else match c.starter with
    | none => ⟨n :: c.done, none, []⟩
    | some s => ⟨c.done, some s, n :: c.marks⟩

/-- Reads a code point. -/
def step (c : Composing) (n : Nat) : Composing :=
  match c.starter with
  | none => c.keep n
  | some s =>
    if c.reaches n then
      match compose? s n with
      | some p => ⟨c.done, some p, c.marks⟩
      | none => c.keep n
    else c.keep n

end Composing

/-- The composed normal form of a text. -/
def composed (text : List Nat) : List Nat :=
  ((decomposed text).foldl Composing.step ⟨[], none, []⟩).flush.reverse

end IdentityGateway.Unicode
