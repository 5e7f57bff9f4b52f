import IdentityGateway.Host.Ascii
import IdentityGateway.Host.NumberName
import IdentityGateway.Json.Scan

/-!
# Web addresses

The addresses of the schemes `http` and `https`, and their normal form: a host name in
ASCII or an IP address in its usual form, no default port, no dot segments, and unsafe
characters as percent escapes. User names before the host are left out.
-/

namespace IdentityGateway

/-- A web address in normal form. -/
structure Url where
  scheme : String
  host : List Char
  port : Option Nat
  path : List Char
  query : Option (List Char)
  fragment : Option (List Char)
  deriving DecidableEq, Repr

namespace Url

/-- A byte that may not stand for itself in an address, in two capital hexadecimal digits. -/
def percentByte (b : UInt8) : List Char :=
  ['%', (Nat.digitChar (b.toNat / 16)).toUpper, (Nat.digitChar (b.toNat % 16)).toUpper]

/-- A text in which the characters that are not safe are escaped. -/
def escaped (safe : Char → Bool) (cs : List Char) : List Char :=
  cs.flatMap fun c => if safe c then [c] else (String.utf8EncodeChar c).flatMap percentByte

/-- Whether a character is printable ASCII. -/
def isVisible (c : Char) : Bool :=
  0x21 ≤ c.toNat && c.toNat < 0x7F

/-- The characters that stay in a fragment. -/
def fragmentSafe (c : Char) : Bool :=
  isVisible c && c != '"' && c != '<' && c != '>' && c.toNat != 0x60

/-- The characters that stay in a path. -/
def pathSafe (c : Char) : Bool :=
  fragmentSafe c && c != '#' && c != '?' && c.toNat != 0x7B && c.toNat != 0x7D

/-- The characters that stay in a query. -/
def querySafe (c : Char) : Bool :=
  isVisible c && c != '"' && c != '#' && c != '<' && c != '>' && c.toNat != 0x27

/-- Whether a segment stands for the directory it is in. -/
def isSingleDot (segment : List Char) : Bool :=
  let s := segment.map Char.toLower
  s = ".".toList || s = "%2e".toList

/-- Whether a segment stands for the directory above. -/
def isDoubleDot (segment : List Char) : Bool :=
  let s := segment.map Char.toLower
  s = "..".toList || s = ".%2e".toList || s = "%2e.".toList || s = "%2e%2e".toList

/-- Whether a segment names a drive: a letter with a colon or a bar. -/
def isDrive : List Char → Bool
  | [letter, mark] => letter.isAlpha && (mark == ':' || mark == '|')
  | _ => false

/-- The segments of the directory above, in reverse. Above a drive there is nothing. -/
def aboveSegments : List (List Char) → List (List Char)
  | [] => []
  | segment :: rest => if isDrive segment then segment :: rest else rest

/-- The segments of a path without those that only move about; `done` is in reverse. -/
def settledSegments (done : List (List Char)) : List (List Char) → List (List Char)
  | [] => done.reverse
  | [segment] =>
    if isDoubleDot segment then ([] :: aboveSegments done).reverse
    else if isSingleDot segment then ([] :: done).reverse
    else (segment :: done).reverse
  | segment :: rest =>
    if isDoubleDot segment then settledSegments (aboveSegments done) rest
    else if isSingleDot segment then settledSegments done rest
    else settledSegments (segment :: done) rest

/-- Whether a character ends a segment. -/
def isSlash (c : Char) : Bool :=
  c == '/' || c == '\\'

/-- A path in normal form, given from its first slash on. -/
def normalPath (cs : List Char) : List Char :=
  let slashed := cs.map fun c => if isSlash c then '/' else c
  let segments := settledSegments [] (Text.splitAt '/' (slashed.drop 1))
  segments.flatMap fun segment => '/' :: escaped pathSafe segment

/-- Characters that no host name has. -/
def isForbiddenInHost (c : Char) : Bool :=
  c.toNat ≤ 0x20 || c.toNat == 0x7F || "#/:<>?@[\\]^|%".toList.contains c

/-- The value of a percent escape, given its first character and what follows. -/
def escapeValue? (c : Char) : List Char → Option Nat
  | a :: b :: _ => if c = '%' then Host.IpLiteral.valueIn? 16 [a, b] else none
  | _ => none

/-- The bytes of a text in which percent escapes stand for the bytes they name; the first
`skipped` characters belong to an escape already read. -/
def unescaped (skipped : Nat) : List Char → List UInt8
  | [] => []
  | c :: rest =>
    if 0 < skipped then unescaped (skipped - 1) rest
    else match escapeValue? c rest with
      | some n => UInt8.ofNat n :: unescaped 2 rest
      | none => String.utf8EncodeChar c ++ unescaped 0 rest

/-- An address of eight groups in its usual form, given after its opening bracket. -/
def bracketedHost? (cs : List Char) : Option (List Char) :=
  if cs.getLast? = some ']' then
    match Host.IpLiteral.eight? cs.dropLast with
    | some (values, []) => some ('[' :: Host.IpLiteral.eightText values ++ [']'])
    | _ => none
  else none

/-- A host name in ASCII, or an address of four numbers in its usual form. -/
def namedHost? (cs : List Char) : Option (List Char) := do
  let name ← Json.decodeUtf8 (unescaped 0 cs)
  let host ← Host.ascii? name.toList
  if host.isEmpty || host.any isForbiddenInHost then none
  else if Host.NumberName.endsInNumber host then
    (Host.NumberName.four? host).map Host.IpLiteral.fourText
  else some host

/-- The one spelling of a host that addresses are compared and requested by, if it names one. -/
def normalHost? : List Char → Option (List Char)
  | '[' :: rest => bracketedHost? rest
  | cs => namedHost? cs

/-- The port number that a scheme implies. -/
def defaultPort (scheme : String) : Nat :=
  if scheme = "https" then 443 else 80

/-- The port number that digits write, unless the scheme implies it. -/
def port? (scheme : String) (digits : List Char) : Option (Option Nat) :=
  if digits.isEmpty then some none
  else match Text.digits? 0 digits with
    | some n =>
      if 65535 < n then none else some (if n = defaultPort scheme then none else some n)
    | none => none

/-- The host of an authority, and its port number if it has one. -/
def hostAndPort (cs : List Char) : List Char × List Char :=
  let digits := (cs.reverse.takeWhile fun c => c != ':' && c != ']').reverse
  match cs.reverse.drop digits.length with
  | ':' :: host => (host.reverse, digits)
  | _ => (cs, [])

/-- The part of an authority after the user name. -/
def withoutUser (cs : List Char) : List Char :=
  (cs.reverse.takeWhile (· != '@')).reverse

/-- Takes an address apart behind its scheme and puts every part into normal form. The slashes at
the front may be any number, and either kind. -/
def afterScheme? (scheme : String) (cs : List Char) : Option Url := do
  let cs := cs.dropWhile isSlash
  let authority := cs.takeWhile fun c => !(isSlash c || c == '?' || c == '#')
  let rest := cs.drop authority.length
  let (host, digits) := hostAndPort (withoutUser authority)
  let host ← normalHost? host
  let port ← port? scheme digits
  let path := rest.takeWhile fun c => c != '?' && c != '#'
  let rest := rest.drop path.length
  let query := match rest with
    | '?' :: rest => some (rest.takeWhile (· != '#'))
    | _ => none
  let fragment := match rest.dropWhile (· != '#') with
    | '#' :: rest => some rest
    | _ => none
  return {
    scheme, host, port
    path := normalPath path
    query := query.map (escaped querySafe)
    fragment := fragment.map (escaped fragmentSafe) }

/-- The characters of an address without margins, tabs and line ends. -/
def cleaned (s : String) : List Char :=
  let isMargin (c : Char) : Bool := c.toNat ≤ 0x20
  let cs := ((s.toList.dropWhile isMargin).reverse.dropWhile isMargin).reverse
  cs.filter fun c => c != '\t' && c != '\n' && c != '\r'

/-- The address that a text means, if it is one of the two schemes that requests can be sent by. -/
def ofText? (s : String) : Option Url :=
  let cs := cleaned s
  let scheme := (cs.takeWhile (· != ':')).map Char.toLower
  let rest := cs.drop (scheme.length + 1)
  if scheme = "http".toList then afterScheme? "http" rest
  else if scheme = "https".toList then afterScheme? "https" rest
  else none

/-- An address as it is requested and told, in normal form. -/
def text (url : Url) : String :=
  String.ofList (url.scheme.toList ++ "://".toList ++ url.host ++
    (match url.port with
      | none => []
      | some n => ':' :: Text.natDigits n) ++ url.path ++
    (match url.query with
      | none => []
      | some q => '?' :: q) ++
    (match url.fragment with
      | none => []
      | some f => '#' :: f))

/-- The longest address that requests can be sent to. -/
def lengthLimit : Nat := 65534

/-- Whether a character of a host may stand in a request. -/
def isSendable (c : Char) : Bool :=
  c != '"' && c.toNat != 0x60 && c.toNat != 0x7B && c.toNat != 0x7D

/-- Whether requests can be sent to an address. -/
def takesRequests (url : Url) : Bool :=
  url.host.all isSendable && url.text.length ≤ lengthLimit

end Url

end IdentityGateway
