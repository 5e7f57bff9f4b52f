import IdentityGateway.Text.Blank

/-!
# Stored passwords

A stored password is a text with the label of a scheme, a salt, and the digest that the
scheme makes of the salt and the password. A password is checked by making the digest
again.
-/

namespace IdentityGateway.Password

/-- The letter that six bits are written as, in the usual alphabet of base 64. -/
def sixBits (n : Nat) : Char :=
  if n < 26 then Char.ofNat (65 + n)
  else if n < 52 then Char.ofNat (71 + n)
  else if n < 62 then Char.ofNat (n - 4)
  else if n = 62 then '+'
  else '/'

/-- Bytes written with six bits a character and without padding. -/
def base64 : List UInt8 → List Char
  | [] => []
  | [a] =>
    let n := a.toNat * 16
    [sixBits (n / 64), sixBits (n % 64)]
  | [a, b] =>
    let n := (a.toNat * 256 + b.toNat) * 4
    [sixBits (n / 4096), sixBits (n / 64 % 64), sixBits (n % 64)]
  | a :: b :: c :: rest =>
    let n := (a.toNat * 256 + b.toNat) * 256 + c.toNat
    sixBits (n / 262144) :: sixBits (n / 4096 % 64) :: sixBits (n / 64 % 64) ::
      sixBits (n % 64) :: base64 rest

/-- How digests are made, or why one cannot be made, and the label that says so. -/
structure Scheme where
  label : List (List Char)
  digest : List Char → String → Except String (List Char)

/-- The text that is stored for a password, unless its digest cannot be made. -/
def Scheme.store (scheme : Scheme) (salt : List UInt8) (password : String) :
    Except String String :=
  let saltText := base64 salt
  (scheme.digest saltText password).map fun digest =>
    String.ofList (List.intercalate ['$'] ([] :: scheme.label ++ [saltText, digest]))

/-- The salt and the digest of a stored text with the label of the scheme. -/
def Scheme.parts? (scheme : Scheme) (stored : String) : Option (List Char × List Char) :=
  match Text.splitAt '$' stored.toList with
  | [] :: rest =>
    if rest.take scheme.label.length = scheme.label then
      match rest.drop scheme.label.length with
      | [salt, digest] => some (salt, digest)
      | _ => none
    else none
  | _ => none

/-- Whether a stored text is that of a password. -/
def Scheme.verify (scheme : Scheme) (stored password : String) : Bool :=
  match scheme.parts? stored with
  | some (salt, digest) => (scheme.digest salt password).toOption == some digest
  | none => false

end IdentityGateway.Password
