import IdentityGateway.Json.Value

/-!
# Faults in JSON

Why a text is no JSON, or why a value does not fit what is expected of it, and where in
the text that was noticed.
-/

namespace IdentityGateway.Json

/-- Why a text is not JSON. -/
inductive Malformed where
  | endInList
  | endInObject
  | endInString
  | endInValue
  | expectedColon
  | expectedListCommaOrEnd
  | expectedObjectCommaOrEnd
  | expectedIdent
  | expectedValue
  | invalidEscape
  | invalidNumber
  | numberOutOfRange
  | invalidUnicode
  | controlCharacter
  | keyMustBeString
  | loneSurrogate
  | trailingComma
  | trailingCharacters
  | unfinishedSurrogate
  | tooDeep
  deriving DecidableEq, Repr

/-- The text shown for a text that is not JSON. -/
def Malformed.message : Malformed → String
  | .endInList => "EOF while parsing a list"
  | .endInObject => "EOF while parsing an object"
  | .endInString => "EOF while parsing a string"
  | .endInValue => "EOF while parsing a value"
  | .expectedColon => "expected `:`"
  | .expectedListCommaOrEnd => "expected `,` or `]`"
  | .expectedObjectCommaOrEnd => "expected `,` or `\x7d`"
  | .expectedIdent => "expected ident"
  | .expectedValue => "expected value"
  | .invalidEscape => "invalid escape"
  | .invalidNumber => "invalid number"
  | .numberOutOfRange => "number out of range"
  | .invalidUnicode => "invalid unicode code point"
  | .controlCharacter => "control character (\\u0000-\\u001F) found while parsing a string"
  | .keyMustBeString => "key must be a string"
  | .loneSurrogate => "lone leading surrogate in hex escape"
  | .trailingComma => "trailing comma"
  | .trailingCharacters => "trailing characters"
  | .unfinishedSurrogate => "unexpected end of hex escape"
  | .tooDeep => "recursion limit exceeded"

/-- Why a value does not fit. -/
inductive Mismatch where
  | invalidType (found : Token) (expected : String)
  | invalidValue (found : Token) (expected : String)
  | invalidLength (length : Nat) (expected : String)
  | missingField (name : String)
  | duplicateField (name : String)
  /-- A scalar of the right type whose content is refused with a text of its own. -/
  | refused (message : String)
  deriving DecidableEq, Repr

/-- The text shown for a value that does not fit. -/
def Mismatch.message : Mismatch → String
  | .invalidType found expected =>
    "invalid type: " ++ found.description ++ ", expected " ++ expected
  | .invalidValue found expected =>
    "invalid value: " ++ found.description ++ ", expected " ++ expected
  | .invalidLength length expected =>
    "invalid length " ++ toString length ++ ", expected " ++ expected
  | .missingField name => "missing field `" ++ name ++ "`"
  | .duplicateField name => "duplicate field `" ++ name ++ "`"
  | .refused message => message

/-- A place in a text: the line, and the bytes of it that were read. -/
structure Position where
  line : Nat
  column : Nat
  deriving DecidableEq, Repr

/-- The place after some bytes. -/
def Position.after (bytes : List UInt8) : Position :=
  bytes.foldl (fun p b => if b == 10 then ⟨p.line + 1, 0⟩ else ⟨p.line, p.column + 1⟩) ⟨1, 0⟩

/-- Why a text cannot be used. -/
inductive Reason where
  | malformed (m : Malformed)
  | mismatch (m : Mismatch)
  /-- A text that stands in this one as a string cannot be used; the place is one in that text. -/
  | embedded (reason : Reason) (place : Position)
  deriving DecidableEq, Repr

/-- The text shown for a reason. -/
def Reason.message : Reason → String
  | .malformed m => m.message
  | .mismatch m => m.message
  | .embedded reason _ => reason.message

/-- The kinds of reason: the text is cut off, is no JSON, or holds an unfit value. -/
inductive Category where
  | incomplete
  | ill
  | unfit
  deriving DecidableEq, Repr

/-- Which of the three kinds of failure a reason belongs to: the text broke off, it is not JSON, or
it is JSON of another form. -/
def Reason.category : Reason → Category
  | .mismatch _ => .unfit
  | .embedded _ _ => .unfit
  | .malformed m => match m with
    | .endInList | .endInObject | .endInString | .endInValue => .incomplete
    | _ => .ill

/-- A step from a value into one of its parts. -/
inductive Segment where
  | key (name : String)
  | index (n : Nat)
  deriving DecidableEq, Repr

/-- A reason with the number of bytes still unread when it was noticed, and the part of
the value it was noticed in. -/
structure Fault where
  reason : Reason
  unread : Nat
  path : List Segment
  deriving DecidableEq, Repr

namespace Fault

/-- The text is found not to be JSON just before `rest`. -/
def before (m : Malformed) (rest : List UInt8) : Fault :=
  ⟨.malformed m, rest.length, []⟩

/-- The text is found not to be JSON at the first byte of `rest`. -/
def «at» (m : Malformed) (rest : List UInt8) : Fault :=
  ⟨.malformed m, rest.length - 1, []⟩

/-- The value that ends before `rest` does not fit. -/
def unfit (m : Mismatch) (rest : List UInt8) : Fault :=
  ⟨.mismatch m, rest.length, []⟩

/-- The fault seen from the value around the part. -/
def inside (segment : Segment) (f : Fault) : Fault :=
  { f with path := segment :: f.path }

end Fault

/-- The place of a fault in the text it was noticed in. -/
def Fault.position (f : Fault) (input : List UInt8) : Position :=
  match f.reason with
  | .embedded _ place => place
  | _ => .after (input.take (input.length - f.unread))

/-- The text shown for a fault: the reason and the place. -/
def Fault.message (f : Fault) (input : List UInt8) : String :=
  let p := f.position input
  f.reason.message ++ " at line " ++ toString p.line ++ " column " ++ toString p.column

/-- The rest of a path in words: a point comes before every key but the first segment. -/
def pathChars (first : Bool) : List Segment → String
  | [] => ""
  | .key name :: rest => (if first then "" else ".") ++ name ++ pathChars false rest
  | .index n :: rest => "[" ++ toString n ++ "]" ++ pathChars false rest

/-- The path into a value in words: keys are joined by points, indices stand in brackets. -/
def pathText (path : List Segment) : String :=
  pathChars true path

end IdentityGateway.Json
