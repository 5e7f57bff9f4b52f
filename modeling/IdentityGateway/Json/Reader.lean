import IdentityGateway.Json.Numeral
import IdentityGateway.Json.Scan

/-!
# Reading JSON values

A value is read with a bound on its nesting. Of members with the same key the last one
counts, and members are held in the order of their keys.
-/

namespace IdentityGateway.Json

open Byte

/-- The number of containers that may be open at a time. -/
def nestingLimit : Nat := 127

/-- What a container is read with: the readers of its elements. -/
abbrev Reader (α : Type) := List UInt8 → Except Fault (α × List UInt8)

/-- The elements of a list up to its end, after those in `acc`. -/
def items (item : Reader Value) (first : Bool) (acc : List Value) :
    Budget → List UInt8 → Except Fault (List Value × List UInt8)
  | [], _ => .error (.at .endInList [])
  | _ :: steps, bs =>
    match nextItem first bs with
    | .error f => .error f
    | .ok (false, rest) => .ok (acc.reverse, rest)
    | .ok (true, rest) => match item rest with
      | .error f => .error f
      | .ok (v, rest) => items item false (v :: acc) steps rest

/-- The members of an object up to its end, with those in `acc`. -/
def members (item : Reader Value) (first : Bool) (acc : List (String × Value)) :
    Budget → List UInt8 → Except Fault (List (String × Value) × List UInt8)
  | [], _ => .error (.at .endInObject [])
  | _ :: steps, bs =>
    match nextKey first bs with
    | .error f => .error f
    | .ok (false, rest) => .ok (acc, rest)
    | .ok (true, rest) => match string rest with
      | .error f => .error f
      | .ok (key, rest) => match afterColon rest with
        | .error f => .error f
        | .ok rest => match item rest with
          | .error f => .error f
          | .ok (v, rest) => members item false (Value.insertMember key v acc) steps rest

/-- What was read if the container ends properly. -/
def closed {α : Type} (a : α) : Closing → Except Fault (α × List UInt8)
  | (none, rest) => .ok (a, rest)
  | (some f, _) => .error f

/-- A scalar that starts with `b`. -/
def scalar (b : UInt8) (bs : List UInt8) : Except Fault (Token × List UInt8) :=
  if b = smallN then (word nullRest bs).map fun rest => (.null, rest)
  else if b = smallT then (word trueRest bs).map fun rest => (.bool true, rest)
  else if b = smallF then (word falseRest bs).map fun rest => (.bool false, rest)
  else if b = minus then (Numeral.unsigned true bs).map fun (n, rest) => (.number n, rest)
  else if isDigit b then
    (Numeral.unsigned false (b :: bs)).map fun (n, rest) => (.number n, rest)
  else if b = quote then (string bs).map fun (s, rest) => (.string s, rest)
  else .error (.at .expectedValue (b :: bs))

/-- The value of a scalar; containers are read elsewhere. -/
def Token.value : Token → Value
  | .null => .null
  | .bool b => .bool b
  | .number n => .number n
  | .string s => .string s
  | .sequence => .array []
  | .map => .object []

/-- How an object is read after its mark, with the reader of the values in it. -/
abbrev ObjectReader := Reader Value → Reader Value

/-- An object is a value of its members, whatever their keys are. -/
def plainObject : ObjectReader := fun item bs =>
  match members item true [] (budget bs) bs with
  | .error f => .error f
  | .ok (ms, rest) => closed (.object ms) (closeMembers rest)

/-- The value at the front, in which `levels` containers may be open at a time, and objects are
read by `object`. -/
def valueBy (object : ObjectReader) : Nat → Reader Value
  | levels, bs =>
    match skipBlanks bs with
    | [] => .error (.at .endInValue [])
    | b :: rest =>
      if b = openList then
        match levels with
        | 0 => .error (.at .tooDeep (b :: rest))
        | levels + 1 => match items (valueBy object levels) true [] (budget rest) rest with
          | .error f => .error f
          | .ok (vs, rest) => closed (.array vs) (closeItems rest)
      else if b = openObject then
        match levels with
        | 0 => .error (.at .tooDeep (b :: rest))
        | levels + 1 => object (valueBy object levels) rest
      else (scalar b rest).map fun (t, rest) => (t.value, rest)

/-- The value at the front, in which `levels` containers may be open at a time and keys mean
nothing. -/
def value (levels : Nat) : Reader Value :=
  valueBy plainObject levels

/-- The outermost form at the front: a scalar is read, a container is not entered. -/
def token (bs : List UInt8) : Except Fault (Token × List UInt8) :=
  match skipBlanks bs with
  | [] => .error (.at .endInValue [])
  | b :: rest =>
    if b = openList then .ok (.sequence, b :: rest)
    else if b = openObject then .ok (.map, b :: rest)
    else scalar b rest

/-- What was read if only blanks follow it. -/
def complete {α : Type} : Except Fault (α × List UInt8) → Except Fault α
  | .error f => .error f
  | .ok (a, bs) => match skipBlanks bs with
    | [] => .ok a
    | b :: rest => .error (.at .trailingCharacters (b :: rest))

end IdentityGateway.Json
