import IdentityGateway.Json.Byte
import IdentityGateway.Json.Fault

/-!
# Scanning JSON

Readers of blanks, words, strings and the marks between the parts of a container. Each
takes the unread bytes and gives what it read with the bytes after it.
-/

namespace IdentityGateway.Json

open Byte

/-- The bytes after leading blanks. -/
def skipBlanks (bs : List UInt8) : List UInt8 :=
  bs.dropWhile isBlank

/-- The bytes after the rest of a word. The byte that differs counts as read. -/
def word : List UInt8 → List UInt8 → Except Fault (List UInt8)
  | [], bs => .ok bs
  | _ :: _, [] => .error (.before .endInValue [])
  | w :: ws, b :: bs => if b = w then word ws bs else .error (.before .expectedIdent bs)

/-- What is left of `null` after its first letter. -/
def nullRest : List UInt8 := [0x75, 0x6C, 0x6C]

/-- What is left of `true` after its first letter. -/
def trueRest : List UInt8 := [0x72, 0x75, 0x65]

/-- What is left of `false` after its first letter. -/
def falseRest : List UInt8 := [0x61, 0x6C, 0x73, 0x65]

/-! ## Strings -/

/-- The number of four hexadecimal digits. -/
def hexQuad : List UInt8 → Except Fault (Nat × List UInt8)
  | a :: b :: c :: d :: rest =>
    match hexValue? a, hexValue? b, hexValue? c, hexValue? d with
    | some a, some b, some c, some d => .ok (((a * 16 + b) * 16 + c) * 16 + d, rest)
    | _, _, _, _ => .error (.before .invalidEscape rest)
  | _ => .error (.before .endInString [])

/-- The bytes of a code point in UTF-8. -/
def codePointBytes (n : Nat) : List UInt8 :=
  String.utf8EncodeChar (Char.ofNat n)

/-- The second half of a pair of surrogates, of which the first was read. -/
def lowSurrogate (high : Nat) : List UInt8 → Except Fault (List UInt8 × List UInt8)
  | [] => .error (.before .endInString [])
  | b :: bs =>
    if b ≠ backslash then .error (.before .unfinishedSurrogate bs)
    else match bs with
      | [] => .error (.before .endInString [])
      | b :: bs =>
        if b ≠ smallU then .error (.before .unfinishedSurrogate bs)
        else match hexQuad bs with
          | .error f => .error f
          | .ok (low, rest) =>
            if 0xDC00 ≤ low ∧ low ≤ 0xDFFF then
              .ok (codePointBytes ((high - 0xD800) * 0x400 + (low - 0xDC00) + 0x10000), rest)
            else .error (.before .loneSurrogate rest)

/-- A character given by its number, in one or two units of sixteen bits. -/
def numberedChar (bs : List UInt8) : Except Fault (List UInt8 × List UInt8) :=
  match hexQuad bs with
  | .error f => .error f
  | .ok (n, rest) =>
    if 0xDC00 ≤ n ∧ n ≤ 0xDFFF then .error (.before .loneSurrogate rest)
    else if 0xD800 ≤ n ∧ n ≤ 0xDBFF then lowSurrogate n rest
    else .ok (codePointBytes n, rest)

/-- The bytes that an escape stands for, read after its backslash. -/
def escape : List UInt8 → Except Fault (List UInt8 × List UInt8)
  | [] => .error (.before .endInString [])
  | b :: bs =>
    if b = quote ∨ b = backslash ∨ b = slash then .ok ([b], bs)
    else if b = smallB then .ok ([0x08], bs)
    else if b = smallF then .ok ([0x0C], bs)
    else if b = smallN then .ok ([0x0A], bs)
    else if b = smallR then .ok ([0x0D], bs)
    else if b = smallT then .ok ([0x09], bs)
    else if b = smallU then numberedChar bs
    else .error (.before .invalidEscape bs)

/-- Something for each step that a reader of some bytes may take: every step but the last
one reads a byte, so that the bytes themselves and one more suffice. -/
abbrev Budget := List UInt8

/-- The budget of a reader of some bytes. -/
def budget (bs : List UInt8) : Budget := 0 :: bs

/-- The bytes of a string up to its closing quote, which stays unread; `acc` holds those
before them in reverse. -/
def stringBytes (acc : List UInt8) :
    Budget → List UInt8 → Except Fault (List UInt8 × List UInt8)
  | [], _ => .error (.before .endInString [])
  | _ :: _, [] => .error (.before .endInString [])
  | _ :: steps, b :: bs =>
    if b = quote then .ok (acc.reverse, b :: bs)
    else if b = backslash then
      match escape bs with
      | .error f => .error f
      | .ok (out, rest) => stringBytes (out.reverseAux acc) steps rest
    else if b < 0x20 then .error (.before .controlCharacter bs)
    else stringBytes (b :: acc) steps bs

/-- The text that some bytes encode, if they are UTF-8. -/
def decodeUtf8 (bytes : List UInt8) : Option String :=
  String.fromUTF8? ⟨bytes.toArray⟩

/-- The end of the characters in UTF-8 from a place on, of which at most `fuel` are read. -/
def validEnd (bytes : ByteArray) (place : Nat) : Nat → Nat
  | 0 => place
  | fuel + 1 => match bytes.utf8DecodeChar? place with
    | some c => validEnd bytes (place + c.utf8Size) fuel
    | none => place

/-- The number of bytes from the first one on that is not part of a character in UTF-8. -/
def invalidCount (bytes : List UInt8) : Nat :=
  bytes.length - validEnd ⟨bytes.toArray⟩ 0 bytes.length

/-- A string, read after its opening quote. Bytes that are not UTF-8 are noticed behind its
closing quote; the place is as far before that as they reach from the end of the string. -/
def string (bs : List UInt8) : Except Fault (String × List UInt8) :=
  match stringBytes [] (budget bs) bs with
  | .error f => .error f
  | .ok (bytes, rest) => match decodeUtf8 bytes with
    | some s => .ok (s, rest.drop 1)
    | none =>
      .error ⟨.malformed .invalidUnicode, (rest.drop 1).length + invalidCount bytes, []⟩

/-- The bytes after a string that nobody wants, read after its opening quote: escapes
are checked for their form only. -/
def skipString : Budget → List UInt8 → Except Fault (List UInt8)
  | [], _ => .error (.before .endInString [])
  | _ :: _, [] => .error (.before .endInString [])
  | _ :: steps, b :: bs =>
    if b = quote then .ok bs
    else if b = backslash then
      match bs with
      | [] => .error (.before .endInString [])
      | e :: rest =>
        if e = quote ∨ e = backslash ∨ e = slash ∨ e = smallB ∨ e = smallF ∨ e = smallN ∨
            e = smallR ∨ e = smallT then skipString steps rest
        else if e = smallU then
          match hexQuad rest with
          | .error f => .error f
          | .ok (_, rest) => skipString steps rest
        else .error (.before .invalidEscape rest)
    else if b < 0x20 then .error (.before .controlCharacter (b :: bs))
    else skipString steps bs

/-! ## The marks of containers -/

/-- Whether another element follows, with the bytes it starts at. Only the first element
needs no comma before it. -/
def nextItem (first : Bool) (bs : List UInt8) : Except Fault (Bool × List UInt8) :=
  match skipBlanks bs with
  | [] => .error (.at .endInList [])
  | b :: rest =>
    if b = closeList then .ok (false, b :: rest)
    else if first then .ok (true, b :: rest)
    else if b = comma then
      match skipBlanks rest with
      | [] => .error (.at .endInValue [])
      | c :: rest =>
        if c = closeList then .error (.at .trailingComma (c :: rest)) else .ok (true, c :: rest)
    else .error (.at .expectedListCommaOrEnd (b :: rest))

/-- Whether another key follows, with the bytes after its opening quote. -/
def nextKey (first : Bool) (bs : List UInt8) : Except Fault (Bool × List UInt8) :=
  match skipBlanks bs with
  | [] => .error (.at .endInObject [])
  | b :: rest =>
    if b = closeObject then .ok (false, b :: rest)
    else if first then
      if b = quote then .ok (true, rest) else .error (.at .keyMustBeString (b :: rest))
    else if b = comma then
      match skipBlanks rest with
      | [] => .error (.at .endInValue [])
      | c :: rest =>
        if c = quote then .ok (true, rest)
        else if c = closeObject then .error (.at .trailingComma (c :: rest))
        else .error (.at .keyMustBeString (c :: rest))
    else .error (.at .expectedObjectCommaOrEnd (b :: rest))

/-- The bytes after the colon of a member. -/
def afterColon (bs : List UInt8) : Except Fault (List UInt8) :=
  match skipBlanks bs with
  | [] => .error (.at .endInObject [])
  | b :: rest => if b = colon then .ok rest else .error (.at .expectedColon (b :: rest))

/-- What ends a container: the fault if it does not end, and the bytes after it. -/
abbrev Closing := Option Fault × List UInt8

/-- The end of a list. A comma before it counts as read. -/
def closeItems (bs : List UInt8) : Closing :=
  match skipBlanks bs with
  | [] => (some (.at .endInList []), [])
  | b :: rest =>
    if b = closeList then (none, rest)
    else if b = comma then
      let after := skipBlanks rest
      match after with
      | c :: _ =>
        if c = closeList then (some (.at .trailingComma after), after)
        else (some (.at .trailingCharacters after), after)
      | [] => (some (.at .trailingCharacters after), after)
    else (some (.at .trailingCharacters (b :: rest)), b :: rest)

/-- The end of an object. -/
def closeMembers (bs : List UInt8) : Closing :=
  match skipBlanks bs with
  | [] => (some (.at .endInObject []), [])
  | b :: rest =>
    if b = closeObject then (none, rest)
    else if b = comma then (some (.at .trailingComma (b :: rest)), b :: rest)
    else (some (.at .trailingCharacters (b :: rest)), b :: rest)

end IdentityGateway.Json
