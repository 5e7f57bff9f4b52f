import IdentityGateway.Text.Decimal

/-!
# IP addresses

The texts of IP addresses: four decimal numbers with points, or up to eight hexadecimal
groups with colons, of which a run of zero groups may be left out and the last two may be
an address of four numbers. Reading gives the numbers and the characters left over.
-/

namespace IdentityGateway.Host.IpLiteral

/-- The value of a hexadecimal digit. -/
def hexDigit? (c : Char) : Option Nat :=
  if '0' ≤ c ∧ c ≤ '9' then some (c.toNat - 48)
  else if 'a' ≤ c ∧ c ≤ 'f' then some (c.toNat - 87)
  else if 'A' ≤ c ∧ c ≤ 'F' then some (c.toNat - 55)
  else none

/-- The value of digits of some base, most significant first. -/
def valueIn? (base : Nat) (digits : List Char) : Option Nat :=
  digits.foldlM (fun value c => do
    let d ← hexDigit? c
    if d < base then some (base * value + d) else none) 0

/-- A decimal number below 256 of at most three digits without a leading zero. -/
def octet? (cs : List Char) : Option (Nat × List Char) :=
  let digits := cs.takeWhile fun c => (Text.digit? c).isSome
  if digits.isEmpty || 3 < digits.length then none
  else if digits.head? == some '0' && digits.length ≠ 1 then none
  else match Text.digits? 0 digits with
    | some n => if n < 256 then some (n, cs.drop digits.length) else none
    | none => none

/-- The characters after a given one. -/
def afterChar? (mark : Char) : List Char → Option (List Char)
  | [] => none
  | c :: cs => if c = mark then some cs else none

/-- An address of four numbers. -/
def four? (cs : List Char) : Option (List Nat × List Char) := do
  let (a, cs) ← octet? cs
  let (b, cs) ← octet? (← afterChar? '.' cs)
  let (c, cs) ← octet? (← afterChar? '.' cs)
  let (d, cs) ← octet? (← afterChar? '.' cs)
  return ([a, b, c, d], cs)

/-- A group of one to four hexadecimal digits. -/
def group? (cs : List Char) : Option (Nat × List Char) :=
  let digits := cs.takeWhile fun c => (hexDigit? c).isSome
  if digits.isEmpty || 4 < digits.length then none
  else (valueIn? 16 digits).map fun n => (n, cs.drop digits.length)

/-- The characters after the colon that comes before every group but the first. -/
def afterSeparator? (index : Nat) (cs : List Char) : Option (List Char) :=
  if index = 0 then some cs else afterChar? ':' cs

/-- Numbers below 256 joined in pairs to groups. -/
def paired : List Nat → List Nat
  | a :: b :: rest => (256 * a + b) :: paired rest
  | _ => []

/-- What was read of a run of groups. -/
structure Groups where
  values : List Nat
  endsInFour : Bool
  rest : List Char
  deriving DecidableEq, Repr

/-- At most `room` further groups after `index` ones. An address of four numbers counts
as two groups and is the last. -/
def groups (index : Nat) : Nat → List Char → Groups
  | 0, cs => ⟨[], false, cs⟩
  | room + 1, cs =>
    let four := if 0 < room then (afterSeparator? index cs).bind four? else none
    match four with
    | some (octets, rest) => ⟨paired octets, true, rest⟩
    | none => match (afterSeparator? index cs).bind group? with
      | some (value, rest) =>
        let more := groups (index + 1) room rest
        { more with values := value :: more.values }
      | none => ⟨[], false, cs⟩

/-- An address of eight groups, of which a run of zeros may be left out. -/
def eight? (cs : List Char) : Option (List Nat × List Char) :=
  let head := groups 0 8 cs
  if head.values.length = 8 then some (head.values, head.rest)
  else if head.endsInFour then none
  else do
    let rest ← afterChar? ':' (← afterChar? ':' head.rest)
    let tail := groups 0 (7 - head.values.length) rest
    let zeros := List.replicate (8 - head.values.length - tail.values.length) 0
    return (head.values ++ zeros ++ tail.values, tail.rest)

/-- Whether a text is an IP address. -/
def isAddress (cs : List Char) : Bool :=
  match four? cs with
  | some (_, rest) => rest.isEmpty
  | none => match eight? cs with
    | some (_, rest) => rest.isEmpty
    | none => false

/-! ## Normal forms -/

/-- The text of an address of four numbers. -/
def fourText (numbers : List Nat) : List Char :=
  List.intercalate ['.'] (numbers.map Text.natDigits)

/-- The number of zeros from a place on. -/
def zerosFrom (values : List Nat) (place : Nat) : Nat :=
  ((values.drop place).takeWhile (· == 0)).length

/-- The place and the length of the first of the longest runs of zeros. -/
def longestZeros (values : List Nat) : Nat × Nat :=
  (List.range values.length).foldl (fun best place =>
    if best.2 < zerosFrom values place then (place, zerosFrom values place) else best) (0, 0)

/-- Groups with colons between them. -/
def colonText (values : List Nat) : List Char :=
  List.intercalate [':'] (values.map (Nat.toDigits 16))

/-- The text of an address of eight groups: the first of the longest runs of at least two
zeros is left out. -/
def eightText (values : List Nat) : List Char :=
  let (place, count) := longestZeros values
  if count < 2 then colonText values
  else colonText (values.take place) ++ "::".toList ++ colonText (values.drop (place + count))

end IdentityGateway.Host.IpLiteral
