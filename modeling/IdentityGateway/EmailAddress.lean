import IdentityGateway.Host.Ascii
import IdentityGateway.Host.IpLiteral

/-!
# Email addresses

Which texts are accepted as email addresses: a local part of at most 64 characters, and
after the last at sign a domain of at most 255, which is a host name, one of any script
that can be written in ASCII, or an IP address in brackets.
-/

namespace IdentityGateway.EmailAddress

/-- Whether a character may stand in a local part. -/
def isLocalChar (c : Char) : Bool :=
  c.isAlphanum || ".!#$%&'*+/=?^_|~-".toList.contains c || c.toNat == 0x60 ||
    c.toNat == 0x7B || c.toNat == 0x7D

/-- Whether a text is a label of a host name: at most 63 letters, digits and hyphens, with
no hyphen at either end. -/
def isLabel (cs : List Char) : Bool :=
  match cs.head?, cs.getLast? with
  | some first, some last =>
    first.isAlphanum && last.isAlphanum && cs.length ≤ 63 &&
      cs.all fun c => c.isAlphanum || c == '-'
  | _, _ => false

/-- Whether every piece between two points is a label, as the domain of an address has to be. -/
def isHostName (cs : List Char) : Bool :=
  (Text.splitAt '.' cs).all isLabel

/-- Whether a character may stand in an IP address. -/
def isLiteralChar (c : Char) : Bool :=
  (Host.IpLiteral.hexDigit? c).isSome || c == ':' || c == '.'

/-- What stands between the last opening bracket and a closing bracket at the end. -/
def bracketed? (cs : List Char) : Option (List Char) :=
  match cs.reverse with
  | ']' :: rest =>
    let inside := rest.takeWhile isLiteralChar
    match rest.drop inside.length with
    | '[' :: _ => if inside.isEmpty then none else some inside.reverse
    | _ => none
  | _ => none

/-- Whether a text is a domain in ASCII: a host name, or an IP address in brackets. -/
def isAsciiDomain (cs : List Char) : Bool :=
  isHostName cs || match bracketed? cs with
    | some address => Host.IpLiteral.isAddress address
    | none => false

/-- Whether a text may stand behind the at sign: as it is, or once its labels are written in
ASCII. -/
def isDomain (cs : List Char) : Bool :=
  isAsciiDomain cs || match Host.ascii? cs with
    | some ascii => isAsciiDomain ascii
    | none => false

/-- The greatest number of characters in a local part. -/
def localLimit : Nat := 64

/-- The greatest number of characters in a domain. -/
def domainLimit : Nat := 255

/-- The parts before and after the last at sign. -/
def parts? (cs : List Char) : Option (List Char × List Char) :=
  let domain := (cs.reverse.takeWhile (· != '@')).reverse
  if domain.length = cs.length then none
  else some (cs.take (cs.length - domain.length - 1), domain)

/-- Whether a text is accepted as an email address. -/
def isValid (address : String) : Bool :=
  match parts? address.toList with
  | none => false
  | some (name, domain) =>
    name.length ≤ localLimit && domain.length ≤ domainLimit &&
      !name.isEmpty && name.all isLocalChar && isDomain domain

end IdentityGateway.EmailAddress
