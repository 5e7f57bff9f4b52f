import IdentityGateway.Text.Blank

/-!
# Header fields

Header fields in the order they came, with names in small letters and values as bytes.
-/

namespace IdentityGateway.Http

/-- Whether a character may stand in a name or a method. -/
def isTokenChar (c : Char) : Bool :=
  c.isAlphanum || "!#$%&'*+-.^_|~".toList.contains c || c.toNat == 0x60

/-- Whether a byte may stand in a header value. -/
def isValueByte (b : UInt8) : Bool :=
  (32 ≤ b && b != 127) || b == 9

/-- Whether a byte of a header value is text. -/
def isTextByte (b : UInt8) : Bool :=
  (32 ≤ b && b < 127) || b == 9

/-- A header value as it came. It is made of bytes and need not be text. -/
abbrev FieldValue := List UInt8

/-- The text of a header value, if all of it is text. -/
def FieldValue.text? (v : FieldValue) : Option String :=
  if v.all isTextByte then some (String.ofList (v.map fun b => Char.ofNat b.toNat)) else none

/-- A text of the gateway's own as a header value. It is only used on ASCII, where every character
is a byte. -/
def asciiBytes (s : String) : FieldValue :=
  s.toList.map fun c => UInt8.ofNat c.toNat

/-- Why a header field is refused. -/
inductive FieldError where
  | invalidName
  | invalidValue
  deriving DecidableEq, Repr

/-- The characters that a header name may have at most. -/
def nameLimit : Nat := 65535

/-- A name in small letters, if it is one. -/
def fieldName? (name : String) : Option String :=
  if !name.isEmpty && name.toList.all isTokenChar && name.length ≤ nameLimit then
    some (Text.lowerAscii name)
  else none

/-- Header fields in the order they came. -/
abbrev Headers := List (String × FieldValue)

namespace Headers

/-- The header fields of a list of pairs, or the first that is refused. -/
def ofPairs : List (String × FieldValue) → Except FieldError Headers
  | [] => .ok []
  | (name, value) :: rest =>
    match fieldName? name with
    | none => .error .invalidName
    | some name =>
      if value.all isValueByte then (ofPairs rest).map fun hs => (name, value) :: hs
      else .error .invalidValue

/-- The first value of a name. -/
def first? (headers : Headers) (name : String) : Option FieldValue :=
  (headers.find? fun h => h.1 == name).map (·.2)

/-- The values of a name in order. -/
def all (headers : Headers) (name : String) : List FieldValue :=
  (headers.filter fun h => h.1 == name).map (·.2)

end Headers

end IdentityGateway.Http
