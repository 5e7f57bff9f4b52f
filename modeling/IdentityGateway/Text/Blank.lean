/-!
# Blank characters

The characters with the Unicode property White_Space, and the removal of blank
margins from a text.
-/

namespace IdentityGateway.Text

/-- The code points with the Unicode property White_Space. -/
def isBlankCode (n : Nat) : Bool :=
  (9 ≤ n && n ≤ 13) || n == 0x20 || n == 0x85 || n == 0xA0 || n == 0x1680 ||
    (0x2000 ≤ n && n ≤ 0x200A) || n == 0x2028 || n == 0x2029 || n == 0x202F ||
    n == 0x205F || n == 0x3000

/-- Whether a character has the Unicode property White_Space. -/
def isBlank (c : Char) : Bool :=
  isBlankCode c.toNat

/-- The characters left once the blanks on both sides are gone. -/
def trimChars (cs : List Char) : List Char :=
  ((cs.dropWhile isBlank).reverse.dropWhile isBlank).reverse

/-- A text without its leading and trailing blanks. -/
def trim (s : String) : String :=
  String.ofList (trimChars s.toList)

/-- The ASCII capitals become small letters; every other character stays. -/
def lowerAscii (s : String) : String :=
  String.ofList (s.toList.map Char.toLower)

/-- The pieces between occurrences of a separator; there is always at least one. -/
def splitAt (separator : Char) : List Char → List (List Char)
  | [] => [[]]
  | c :: cs =>
    if c = separator then [] :: splitAt separator cs
    else match splitAt separator cs with
      | [] => [[c]]
      | piece :: pieces => (c :: piece) :: pieces

/-- Whether one text of characters begins with another. -/
def startsWith (start s : String) : Bool :=
  start.toList.isPrefixOf s.toList

end IdentityGateway.Text
