import IdentityGateway.Json.Value

/-!
# Writing JSON

The compact text of a value. In strings only quotes, backslashes and controls below the
space are escaped.
-/

namespace IdentityGateway.Json

/-- The hexadecimal digit of a number below sixteen. -/
def hexDigit (n : Nat) : Char :=
  if n < 10 then Char.ofNat (48 + n) else Char.ofNat (87 + n)

/-- A character as it is written inside a string. -/
def escapedChar (c : Char) : List Char :=
  if c = '"' then ['\\', '"']
  else if c = '\\' then ['\\', '\\']
  else if c = '\x08' then ['\\', 'b']
  else if c = '\x0c' then ['\\', 'f']
  else if c = '\n' then ['\\', 'n']
  else if c = '\r' then ['\\', 'r']
  else if c = '\t' then ['\\', 't']
  else if c.toNat < 0x20 then
    ['\\', 'u', '0', '0', hexDigit (c.toNat / 16), hexDigit (c.toNat % 16)]
  else [c]

/-- A string between quotes. -/
def stringChars (s : String) : List Char :=
  '"' :: s.toList.flatMap escapedChar ++ ['"']

/-- A number as it is written: an integer in decimal digits, a double-precision one in the fewest
that tell it apart from its neighbours. -/
def Number.text : Number → String
  | .integer n => toString n
  | .real x => x.text

/-- The comma before every element but the first. -/
def separator (first : Bool) : List Char :=
  if first then [] else [',']

namespace Value

mutual

/-- The text of a value. -/
def chars : Value → List Char
  | .null => ['n', 'u', 'l', 'l']
  | .bool true => ['t', 'r', 'u', 'e']
  | .bool false => ['f', 'a', 'l', 's', 'e']
  | .number n => n.text.toList
  | .string s => stringChars s
  | .array items => '[' :: itemChars true items ++ [']']
  | .object members => '{' :: memberChars true members ++ ['}']

/-- The texts of elements with commas between them. -/
def itemChars (first : Bool) : List Value → List Char
  | [] => []
  | v :: rest => separator first ++ v.chars ++ itemChars false rest

/-- The texts of members with commas between them. -/
def memberChars (first : Bool) : List (String × Value) → List Char
  | [] => []
  | (key, v) :: rest =>
    separator first ++ stringChars key ++ ':' :: v.chars ++ memberChars false rest

end

/-- The compact text of a value. -/
def text (v : Value) : String :=
  String.ofList v.chars

end Value

end IdentityGateway.Json
