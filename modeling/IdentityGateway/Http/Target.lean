import IdentityGateway.Http.Header
import IdentityGateway.Json.Scan

/-!
# Request targets

What a request line may name: a path with an optional query, a whole address, an
authority, or an asterisk. Only the path decides who answers.
-/

namespace IdentityGateway.Http.Target

/-- The bytes that a target may have at most. -/
def lengthLimit : Nat := 65534

/-- Whether a byte may stand in a path; those above ASCII are judged as a whole. -/
def isPathByte (b : UInt8) : Bool :=
  let n := b.toNat
  n == 0x21 || n == 0x22 || (0x24 ≤ n && n ≤ 0x3B) || n == 0x3D || (0x40 ≤ n && n ≤ 0x5F) ||
    (0x61 ≤ n && n ≤ 0x7E) || 0x80 ≤ n

/-- Whether a byte may stand in a query; those above ASCII are judged as a whole. -/
def isQueryByte (b : UInt8) : Bool :=
  let n := b.toNat
  n == 0x21 || (0x24 ≤ n && n ≤ 0x3B) || n == 0x3D || (0x3F ≤ n && n ≤ 0x7E) || 0x80 ≤ n

/-- The path of a text of path and query, if it is well formed. What follows a number
sign is not looked at. -/
def path? (bs : List UInt8) : Option String :=
  let bs := bs.takeWhile (· != 0x23)
  let path := bs.takeWhile (· != 0x3F)
  let query := bs.drop (path.length + 1)
  if path.all isPathByte && query.all isQueryByte && (Json.decodeUtf8 bs).isSome then
    Json.decodeUtf8 path
  else none

/-- Whether a character may stand in a scheme. -/
def isSchemeByte (b : UInt8) : Bool :=
  let c := Char.ofNat b.toNat
  b < 0x80 && (c.isAlphanum || c == '+' || c == '-' || c == '.' || c == '~')

/-- The bytes that a scheme may have at most. -/
def schemeLimit : Nat := 64

/-- The bytes after a scheme and two slashes: none if the scheme is too long, and the
bytes themselves if there is no scheme. -/
def afterScheme (bs : List UInt8) : Option (Bool × List UInt8) :=
  let scheme := bs.takeWhile isSchemeByte
  match bs.drop scheme.length with
  | 0x3A :: 0x2F :: 0x2F :: rest =>
    if schemeLimit < scheme.length then none else some (true, rest)
  | _ => some (false, bs)

/-- Whether a byte may stand in an authority where it has no meaning of its own. -/
def isAuthorityByte (b : UInt8) : Bool :=
  let c := Char.ofNat b.toNat
  b < 0x80 && (c.isAlphanum || "!$&'()*+,-.:;=@[]_~%".toList.contains c)

/-- What was seen of an authority: colons and percent signs since the user name or the
bracketed address, and brackets. -/
structure AuthorityScan where
  colons : Nat := 0
  opened : Bool := false
  closed : Bool := false
  percent : Bool := false
  last : Option UInt8 := none
  deriving DecidableEq, Repr

/-- Reads a byte of an authority. -/
def AuthorityScan.step (s : AuthorityScan) (b : UInt8) : Option AuthorityScan :=
  let s := { s with last := some b }
  if b = 0x3A then if 8 ≤ s.colons then none else some { s with colons := s.colons + 1 }
  else if b = 0x5B then if s.percent || s.opened then none else some { s with opened := true }
  else if b = 0x5D then
    if !s.opened || s.closed then none
    else some { s with closed := true, colons := 0, percent := false }
  else if b = 0x40 then some { s with colons := 0, percent := false }
  else if b = 0x25 then some { s with percent := true }
  else if isAuthorityByte b then some s
  else none

/-- Whether an authority may end here. -/
def AuthorityScan.isComplete (s : AuthorityScan) : Bool :=
  s.opened == s.closed && s.colons ≤ 1 && s.last != some 0x40 && !s.percent

/-- The length of the authority at the front, if it is well formed. -/
def authorityLength? (bs : List UInt8) : Option Nat := do
  let authority := bs.takeWhile fun b => b != 0x2F && b != 0x3F && b != 0x23
  let scan ← authority.foldlM AuthorityScan.step {}
  if scan.isComplete then some authority.length else none

/-- The path that a target names, if the target is well formed. A whole address without a
path names the root. -/
def pathOf? (bs : List UInt8) : Option String :=
  if lengthLimit < bs.length then none
  else match bs with
    | [] => none
    | [0x2A] => some "*"
    | 0x2F :: _ => path? bs
    | _ => do
      let (absolute, rest) ← if bs.length ≤ 3 then some (false, bs) else afterScheme bs
      let length ← authorityLength? rest
      if !absolute then
        if length = rest.length then some "" else none
      else if length = 0 then none
      else
        let path ← path? (rest.drop length)
        return if path.isEmpty then "/" else path

end IdentityGateway.Http.Target
