import IdentityGateway.Core.Basic

/-!
# Fresh values

Ids, salts and tokens made of random bytes.
-/

namespace IdentityGateway.Entropy

/-- The two hexadecimal digits of a byte. -/
def hexPair (b : UInt8) : List Char :=
  [Nat.digitChar (b.toNat / 16), Nat.digitChar (b.toNat % 16)]

/-- Bytes in hexadecimal. -/
def hex (bytes : List UInt8) : List Char :=
  bytes.flatMap hexPair

/-- Sixteen bytes with the marks of a random identifier. -/
def marked (bytes : List UInt8) : List UInt8 :=
  let bytes := bytes.modify 6 fun b => (b &&& 0x0F) ||| 0x40
  bytes.modify 8 fun b => (b &&& 0x3F) ||| 0x80

/-- A random identifier in groups. -/
def identifier (bytes : List UInt8) : String :=
  let digits := hex (marked bytes)
  let group (start count : Nat) : List Char := (digits.drop start).take count
  String.ofList (List.intercalate ['-']
    [group 0 8, group 8 4, group 12 4, group 16 4, group 20 12])

/-- A random identifier without groups. -/
def token (bytes : List UInt8) : String :=
  String.ofList (hex (marked bytes))

/-- Random bytes for an id, a salt and two tokens, sixteen each. -/
def momentSize : Nat := 64

/-- A moment with fresh values made of random bytes. -/
def moment (now : Timestamp) (bytes : List UInt8) : Moment where
  now := now
  userId := identifier (bytes.take 16)
  salt := (bytes.drop 16).take 16
  firstToken := token ((bytes.drop 32).take 16)
  secondToken := token ((bytes.drop 48).take 16)

end IdentityGateway.Entropy
