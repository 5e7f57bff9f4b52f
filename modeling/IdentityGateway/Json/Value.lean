import IdentityGateway.Binary64.Shortest
import IdentityGateway.Text.Quoted

/-!
# JSON values

Values as they are held once read: an object keeps its members in a list, and a number is
an integer of 64 bits or a double-precision number.
-/

namespace IdentityGateway.Json

/-- A number as it is kept once read: an integer if it is written as one and fits into 64 bits, a
double-precision number otherwise. -/
inductive Number where
  | integer (n : Int)
  | real (x : Binary64)
  deriving DecidableEq, Repr

/-- Any JSON, held apart from its text. What is written and what has no fixed form goes through this
type. -/
inductive Value where
  | null
  | bool (b : Bool)
  | number (n : Number)
  | string (s : String)
  | array (items : List Value)
  | object (members : List (String × Value))
  deriving Repr

/-- The outermost form of a value: all of a scalar, and of a container only its kind. -/
inductive Token where
  | null
  | bool (b : Bool)
  | number (n : Number)
  | string (s : String)
  | sequence
  | map
  deriving DecidableEq, Repr

namespace Value

/-- A count or an id as JSON. It is meant for what fits into 64 bits, which is what is read back. -/
def integer (n : Int) : Value := .number (.integer n)

/-- A text that may be missing, which is told as `null`. -/
def ofText? (s : Option String) : Value :=
  match s with
  | none => .null
  | some s => .string s

/-- The outermost form. -/
def token : Value → Token
  | .null => .null
  | .bool b => .bool b
  | .number n => .number n
  | .string s => .string s
  | .array _ => .sequence
  | .object _ => .map

/-- The value of a member, if the value is an object that has it. -/
def get? (v : Value) (key : String) : Option Value :=
  match v with
  | .object members => (members.find? fun m => m.1 == key).map (·.2)
  | _ => none

/-- The members with one more, in the order of the keys; an earlier member of the same
key gives way. -/
def insertMember (key : String) (value : Value) :
    List (String × Value) → List (String × Value)
  | [] => [(key, value)]
  | (k, v) :: rest =>
    if k = key then (key, value) :: rest
    else if key < k then (key, value) :: (k, v) :: rest
    else (k, v) :: insertMember key value rest

end Value

/-- A form in words, as it stands in complaints. -/
def Token.description : Token → String
  | .null => "null"
  | .bool true => "boolean `true`"
  | .bool false => "boolean `false`"
  | .number (.integer n) => "integer `" ++ toString n ++ "`"
  | .number (.real x) => "floating point `" ++ x.text ++ "`"
  | .string s => "string " ++ Text.quoted s
  | .sequence => "sequence"
  | .map => "map"

end IdentityGateway.Json
