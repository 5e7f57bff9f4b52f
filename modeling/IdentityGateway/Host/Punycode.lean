/-!
# Bootstring labels

Labels of code points in the letters, digits and hyphens of host names: the basic code
points first, then a generalized variable-length number for each other one.
-/

namespace IdentityGateway.Host.Punycode

/-- The first code point that is not basic. -/
def initialCode : Nat := 128

/-- The bias before any number was read or written. -/
def initialBias : Nat := 72

/-- Where code points end: a number that comes out above is no character. -/
def greatestCode : Nat := 0x10FFFF

/-- The bias and the scaled number once a number is small enough. -/
def scaleDown (k : Nat) : Nat → Nat → Nat
  | 0, delta => k + 36 * delta / (delta + 38)
  | fuel + 1, delta =>
    if 455 < delta then scaleDown (k + 36) fuel (delta / 35) else k + 36 * delta / (delta + 38)

/-- The bias after a number, given how many code points there are then. -/
def adapt (delta count : Nat) (first : Bool) : Nat :=
  let delta := if first then delta / 700 else delta / 2
  scaleDown 0 32 (delta + delta / count)

/-- The threshold of the digit at place `k`. -/
def threshold (k bias : Nat) : Nat :=
  if k ≤ bias then 1 else if bias + 26 ≤ k then 26 else k - bias

/-- A digit of base 36 as it is written, letters before decimal digits. -/
def digitCode (d : Nat) : Nat :=
  if d < 26 then 97 + d else 22 + d

/-- A digit of base 36 as it is read back, if the character is one in small letters. -/
def digitValue? (n : Nat) : Option Nat :=
  if 97 ≤ n ∧ n ≤ 122 then some (n - 97)
  else if 48 ≤ n ∧ n ≤ 57 then some (n - 22)
  else none

/-- A threshold is at least one. -/
theorem threshold_pos (k bias : Nat) : 0 < threshold k bias := by
  unfold threshold
  split
  · omega
  · split <;> omega

/-- A threshold is at most 26. -/
theorem threshold_le (k bias : Nat) : threshold k bias ≤ 26 := by
  unfold threshold
  split
  · omega
  · split <;> omega

/-- The digits of a number from place `k` on. -/
def numberDigits (bias k q : Nat) : List Nat :=
  let t := threshold k bias
  if q < t then [digitCode q]
  else digitCode (t + (q - t) % (36 - t)) :: numberDigits bias (k + 36) ((q - t) / (36 - t))
termination_by q
decreasing_by
  have hpos := threshold_pos k bias
  have hdiv := Nat.div_le_self (q - threshold k bias) (36 - threshold k bias)
  omega

/-- What writing carries along. -/
structure Encoder where
  delta : Nat
  bias : Nat
  handled : Nat
  output : List Nat
  deriving DecidableEq, Repr

/-- Passes one code point of the label while those of code `n` are written. -/
def Encoder.pass (basicCount n : Nat) (e : Encoder) (c : Nat) : Encoder :=
  if c < n then { e with delta := e.delta + 1 }
  else if c = n then
    { delta := 0
      bias := adapt e.delta (e.handled + 1) (e.handled == basicCount)
      handled := e.handled + 1
      output := (numberDigits e.bias 36 e.delta).reverse ++ e.output }
  else e

/-- The least code point of the label from `n` on. -/
def leastFrom (n : Nat) (label : List Nat) : Option Nat :=
  (label.filter (n ≤ ·)).min?

/-- Writes the code points from `n` on in increasing order. -/
def Encoder.run (label : List Nat) (basicCount : Nat) : Nat → Nat → Encoder → Encoder
  | 0, _, e => e
  | fuel + 1, n, e =>
    match leastFrom n label with
    | none => e
    | some m =>
      let started := { e with delta := e.delta + (m - n) * (e.handled + 1) }
      let passed := label.foldl (Encoder.pass basicCount m) started
      run label basicCount fuel (m + 1) { passed with delta := passed.delta + 1 }

/-- The written form of a label. -/
def encode (label : List Nat) : List Nat :=
  let basic := label.filter (· < initialCode)
  let start := if basic.isEmpty then [] else basic ++ [45]
  let e := Encoder.run label basic.length label.length initialCode
    ⟨0, initialBias, basic.length, []⟩
  start ++ e.output.reverse

/-- The number at the front: its sum and the rest. -/
def number? (bias : Nat) (sum weight k : Nat) : List Nat → Option (Nat × List Nat)
  | [] => none
  | c :: cs => do
    let d ← digitValue? c
    let sum := sum + d * weight
    let t := threshold k bias
    if d < t then some (sum, cs)
    else number? bias sum (weight * (36 - t)) (k + 36) cs

/-- The code points that the numbers insert into `output`. -/
def insertAll (output : List Nat) (n i bias : Nat) : Nat → List Nat → Option (List Nat)
  | _, [] => some output
  | 0, _ => none
  | fuel + 1, cs => do
    let (sum, rest) ← number? bias i 1 36 cs
    let count := output.length + 1
    let code := n + sum / count
    let place := sum % count
    if greatestCode < code ∨ (0xD800 ≤ code ∧ code ≤ 0xDFFF) then none
    else
      let next := output.take place ++ code :: output.drop place
      insertAll next code (place + 1) (adapt (sum - i) count (i == 0)) fuel rest

/-- The characters before the last hyphen, and those after it. A hyphen with nothing before
it does not separate. -/
def splitLast (cs : List Nat) : List Nat × List Nat :=
  let tail := (cs.reverse.takeWhile (· != 45)).reverse
  if cs.length ≤ tail.length + 1 then ([], cs)
  else (cs.take (cs.length - tail.length - 1), tail)

/-- The label of a written form. -/
def decode? (cs : List Nat) : Option (List Nat) :=
  let (basic, numbers) := splitLast cs
  if basic.all (· < initialCode) then
    insertAll basic initialCode 0 initialBias numbers.length numbers
  else none

end IdentityGateway.Host.Punycode
