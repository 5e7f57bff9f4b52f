import IdentityGateway.Json.Numeral
import IdentityGateway.Json.Scan

/-!
# Values that nobody wants

Reading past a value without keeping it. Open containers are kept in a list, so that
nesting has no limit.
-/

namespace IdentityGateway.Json

open Byte

/-- A container that is still open. -/
inductive Frame where
  | list
  | object
  deriving DecidableEq, Repr

/-- Reads past a scalar that starts with `b`. -/
def skipScalar (b : UInt8) (bs : List UInt8) : Except Fault (List UInt8) :=
  if b = smallN then word nullRest bs
  else if b = smallT then word trueRest bs
  else if b = smallF then word falseRest bs
  else if b = minus then Numeral.skip bs
  else if isDigit b then Numeral.skip (b :: bs)
  else if b = quote then skipString (budget bs) bs
  else .error (.at .expectedValue (b :: bs))

/-- Reads past a key and its colon, if the next byte opens a string. -/
def skipKey (bs : List UInt8) : Except Fault (List UInt8) :=
  match skipBlanks bs with
  | [] => .error (.at .endInObject [])
  | b :: rest =>
    if b = quote then
      match skipString (budget rest) rest with
      | .error f => .error f
      | .ok rest => afterColon rest
    else .error (.at .keyMustBeString (b :: rest))

/-- Whether a value or the end of one comes next. -/
inductive Expecting where
  | value
  | ending
  deriving DecidableEq, Repr

/-- Reads past a value inside some open containers, and past the ends of those. -/
def skipNested : Budget → Expecting → List Frame → List UInt8 → Except Fault (List UInt8)
  | [], _, _, _ => .error (.at .endInValue [])
  | _ :: steps, .value, frames, bs =>
    match skipBlanks bs with
    | [] => .error (.at .endInValue [])
    | b :: rest =>
      if b = openList then
        match skipBlanks rest with
        | [] => .error (.at .endInList [])
        | c :: after =>
          if c = closeList then skipNested steps .ending frames after
          else skipNested steps .value (.list :: frames) (c :: after)
      else if b = openObject then
        match skipBlanks rest with
        | [] => .error (.at .endInObject [])
        | c :: after =>
          if c = closeObject then skipNested steps .ending frames after
          else match skipKey (c :: after) with
            | .error f => .error f
            | .ok rest => skipNested steps .value (.object :: frames) rest
      else match skipScalar b rest with
        | .error f => .error f
        | .ok rest => skipNested steps .ending frames rest
  | _ :: _, .ending, [], bs => .ok bs
  | _ :: steps, .ending, .list :: frames, bs =>
    match skipBlanks bs with
    | [] => .error (.at .endInList [])
    | b :: rest =>
      if b = comma then skipNested steps .value (.list :: frames) rest
      else if b = closeList then skipNested steps .ending frames rest
      else .error (.at .expectedListCommaOrEnd (b :: rest))
  | _ :: steps, .ending, .object :: frames, bs =>
    match skipBlanks bs with
    | [] => .error (.at .endInObject [])
    | b :: rest =>
      if b = comma then
        match skipKey rest with
        | .error f => .error f
        | .ok rest => skipNested steps .value (.object :: frames) rest
      else if b = closeObject then skipNested steps .ending frames rest
      else .error (.at .expectedObjectCommaOrEnd (b :: rest))

/-- Reads past one value, however deeply nested. -/
def skipValue (bs : List UInt8) : Except Fault (List UInt8) :=
  skipNested (budget bs) .value [] bs

end IdentityGateway.Json
