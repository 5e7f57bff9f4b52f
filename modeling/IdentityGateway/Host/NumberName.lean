import IdentityGateway.Host.IpLiteral
import IdentityGateway.Text.Blank

/-!
# Hosts named by numbers

A host name that ends in a number is an address of four numbers in a lax form: there may be
fewer parts, the last of which fills the bytes that are left, and each part may be
hexadecimal or octal.
-/

namespace IdentityGateway.Host.NumberName

/-- The parts of a name between its points, without an empty one at the end. -/
def parts (name : List Char) : List (List Char) :=
  let all := Text.splitAt '.' name
  if all.getLast? = some [] then all.dropLast else all

/-- The value of a part: hexadecimal after `0x`, octal after another leading zero, and
decimal otherwise. -/
def value? : List Char → Option Nat
  | [] => none
  | '0' :: 'x' :: digits => IpLiteral.valueIn? 16 digits
  | '0' :: d :: digits => IpLiteral.valueIn? 8 (d :: digits)
  | digits => IpLiteral.valueIn? 10 digits

/-- Whether the last part of a name is a number, be it well formed or not. -/
def endsInNumber (name : List Char) : Bool :=
  match (parts name).getLast? with
  | none => false
  | some last => (!last.isEmpty && last.all Char.isDigit) || (value? last).isSome

/-- The last `count` bytes of a number, most significant first. -/
def bytes (count n : Nat) : List Nat :=
  (List.range count).map fun place => n / Nat.pow 256 (count - 1 - place) % 256

/-- The four numbers that a name stands for. -/
def four? (name : List Char) : Option (List Nat) := do
  let values ← (parts name).mapM value?
  let last ← values.getLast?
  let before := values.dropLast
  let count := 4 - before.length
  if 3 < before.length || before.any (255 < ·) || Nat.pow 256 count ≤ last then none
  else some (before ++ bytes count last)

end IdentityGateway.Host.NumberName
