import IdentityGateway.Json.Byte
import IdentityGateway.Json.Fault

/-!
# JSON numerals

A numeral without fraction and exponent is an integer while it fits into 64 bits; any
other is a double-precision number. Digits that no longer fit into 64 bits are counted
before the point and dropped after it.
-/

namespace IdentityGateway.Json.Numeral

open Byte

/-- Significands are below this bound. -/
def significandBound : Nat := Nat.pow 2 64

/-- Exponents are below this bound. -/
def exponentBound : Nat := Nat.pow 2 31

/-- Negative integers are above the negative of this bound or equal to it. -/
def negativeBound : Nat := Nat.pow 2 63

/-- The bytes after leading digits. -/
def skipDigits (bs : List UInt8) : List UInt8 :=
  bs.dropWhile isDigit

/-- Whether the next byte is the mark of an exponent. -/
def startsExponent : List UInt8 → Bool
  | b :: _ => b == smallE || b == capitalE
  | [] => false

/-- The number of a significand and an exponent, if it is finite. -/
def real (negative : Bool) (significand : Nat) (exponent : Int) (rest : List UInt8) :
    Except Fault (Number × List UInt8) :=
  match Binary64.ofDecimal? negative significand exponent with
  | some x => .ok (.real x, rest)
  | none => .error (.before .numberOutOfRange rest)

/-- The digits of an exponent after the first. An exponent out of bounds makes the number
zero, unless it makes it infinite. -/
def exponentDigits (negative : Bool) (significand : Nat) (start : Int) (up : Bool)
    (exponent : Nat) : List UInt8 → Except Fault (Number × List UInt8)
  | [] => real negative significand (if up then start + exponent else start - exponent) []
  | b :: bs =>
    if isDigit b then
      let next := 10 * exponent + digitValue b
      if next < exponentBound then exponentDigits negative significand start up next bs
      else if significand ≠ 0 ∧ up then .error (.before .numberOutOfRange bs)
      else real negative 0 0 (skipDigits bs)
    else
      real negative significand (if up then start + exponent else start - exponent) (b :: bs)

/-- An exponent, read after its mark. -/
def exponent (negative : Bool) (significand : Nat) (start : Int) (bs : List UInt8) :
    Except Fault (Number × List UInt8) :=
  let (up, bs) := match bs with
    | plus :: rest => (true, rest)
    | minus :: rest => (false, rest)
    | bs => (true, bs)
  match bs with
  | [] => .error (.before .endInValue [])
  | b :: bs =>
    if isDigit b then exponentDigits negative significand start up (digitValue b) bs
    else .error (.before .invalidNumber bs)

/-- Reads on where an exponent may follow. From here on the number is a double-precision one. -/
def maybeExponent (negative : Bool) (significand : Nat) (start : Int) (bs : List UInt8) :
    Except Fault (Number × List UInt8) :=
  if startsExponent bs then exponent negative significand start (bs.drop 1)
  else real negative significand start bs

/-- The digits of a fraction, `count` of which were read, and what follows them. -/
def fraction (negative : Bool) (significand : Nat) (start : Int) (count : Nat) :
    List UInt8 → Except Fault (Number × List UInt8)
  | [] =>
    if count = 0 then .error (.at .endInValue [])
    else real negative significand (start - count) []
  | b :: bs =>
    if isDigit b then
      let next := 10 * significand + digitValue b
      if next < significandBound then fraction negative next start (count + 1) bs
      else maybeExponent negative significand (start - count) (skipDigits bs)
    else if count = 0 then .error (.at .invalidNumber (b :: bs))
    else maybeExponent negative significand (start - count) (b :: bs)

/-- The end of an integer too long for 64 bits, of which `count` digits were dropped. -/
def longInteger (negative : Bool) (significand count : Nat) :
    List UInt8 → Except Fault (Number × List UInt8)
  | [] => real negative significand count []
  | b :: bs =>
    if isDigit b then longInteger negative significand (count + 1) bs
    else if b = point then fraction negative significand count 0 bs
    else maybeExponent negative significand count (b :: bs)

/-- An integer with its sign. A negative number below 64 bits, or zero, is not one. -/
def signed (negative : Bool) (n : Nat) (rest : List UInt8) :
    Except Fault (Number × List UInt8) :=
  if !negative then .ok (.integer n, rest)
  else if 0 < n ∧ n ≤ negativeBound then .ok (.integer (-(n : Int)), rest)
  else real negative n 0 rest

/-- The rest of a number after its integer digits. -/
def afterInteger (negative : Bool) (n : Nat) (bs : List UInt8) :
    Except Fault (Number × List UInt8) :=
  match bs with
  | point :: rest => fraction negative n 0 0 rest
  | bs => if startsExponent bs then exponent negative n 0 (bs.drop 1) else signed negative n bs

/-- The digits of an integer after the first. -/
def integerDigits (negative : Bool) (n : Nat) :
    List UInt8 → Except Fault (Number × List UInt8)
  | [] => signed negative n []
  | b :: bs =>
    if isDigit b then
      let next := 10 * n + digitValue b
      if next < significandBound then integerDigits negative next bs
      else longInteger negative n 1 bs
    else afterInteger negative n (b :: bs)

/-- A number, read after its sign. -/
def unsigned (negative : Bool) : List UInt8 → Except Fault (Number × List UInt8)
  | [] => .error (.before .endInValue [])
  | b :: bs =>
    if b = zero then
      match bs with
      | [] => signed negative 0 []
      | c :: rest =>
        if isDigit c then .error (.at .invalidNumber (c :: rest))
        else afterInteger negative 0 (c :: rest)
    else if isDigit b then integerDigits negative (digitValue b) bs
    else .error (.before .invalidNumber bs)

/-! ## Numerals that nobody wants -/

/-- The bytes after an exponent, read after its mark. -/
def skipExponent (bs : List UInt8) : Except Fault (List UInt8) :=
  let bs := match bs with
    | plus :: rest => rest
    | minus :: rest => rest
    | bs => bs
  match bs with
  | [] => .error (.before .invalidNumber [])
  | b :: bs => if isDigit b then .ok (skipDigits bs) else .error (.before .invalidNumber bs)

/-- The bytes after a fraction, read after its point. -/
def skipFraction (bs : List UInt8) : Except Fault (List UInt8) :=
  let rest := skipDigits bs
  if !(bs.head?.any isDigit) then .error (.at .invalidNumber rest)
  else if startsExponent rest then skipExponent (rest.drop 1)
  else .ok rest

/-- The bytes after a fraction or an exponent, if one follows. -/
def skipAfterInteger (bs : List UInt8) : Except Fault (List UInt8) :=
  match bs with
  | point :: rest => skipFraction rest
  | bs => if startsExponent bs then skipExponent (bs.drop 1) else .ok bs

/-- The bytes after a number, read after its sign. -/
def skip : List UInt8 → Except Fault (List UInt8)
  | [] => .error (.before .invalidNumber [])
  | b :: bs =>
    if b = zero then
      match bs with
      | [] => .ok []
      | c :: rest =>
        if isDigit c then .error (.at .invalidNumber (c :: rest))
        else skipAfterInteger (c :: rest)
    else if isDigit b then skipAfterInteger (skipDigits bs)
    else .error (.before .invalidNumber bs)

end IdentityGateway.Json.Numeral
