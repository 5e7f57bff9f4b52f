import IdentityGateway.Timestamp.Basic
import IdentityGateway.Text.Blank

/-!
# Reading timestamps

The accepted texts are those of RFC 3339 and some near to it: a signed year, parts with
fewer digits, blanks between the parts, and `UTC` for the offset. Each part is checked
as it is read, and the date as a whole at the end.
-/

namespace IdentityGateway.Timestamp

/-- Why a text is not a timestamp. -/
inductive Refusal where
  | outOfRange
  | impossible
  | invalid
  | tooShort
  | tooLong
  deriving DecidableEq, Repr

/-- The text shown for a refusal. -/
def Refusal.message : Refusal → String
  | .outOfRange => "input is out of range"
  | .impossible => "no possible date and time matching input"
  | .invalid => "input contains invalid characters"
  | .tooShort => "premature end of input"
  | .tooLong => "trailing input"

/-- No number above this bound is counted. -/
def countBound : Nat := Nat.pow 2 63

/-- The number after `value`, of at most `width` further digits. -/
def moreDigits (value : Nat) : Nat → List Char → Except Refusal (Nat × List Char)
  | 0, cs => .ok (value, cs)
  | _ + 1, [] => .ok (value, [])
  | width + 1, c :: cs =>
    match Text.digit? c with
    | none => .ok (value, c :: cs)
    | some d =>
      let next := 10 * value + d
      if next < countBound then moreDigits next width cs else .error .outOfRange

/-- A number of one to `width` digits. -/
def number (width : Nat) : List Char → Except Refusal (Nat × List Char)
  | [] => .error .tooShort
  | c :: cs => match Text.digit? c with
    | none => .error .invalid
    | some _ => moreDigits 0 width (c :: cs)

/-- The characters after leading blanks. -/
def skipBlanks (cs : List Char) : List Char :=
  cs.dropWhile Text.isBlank

/-- A year of at most four digits, or of any number of digits after a sign. -/
def yearPart (cs : List Char) : Except Refusal (Int × List Char) := do
  let (year, rest) ← match skipBlanks cs with
    | '-' :: cs => (number cs.length cs).map fun (n, rest) => (-(n : Int), rest)
    | '+' :: cs => (number cs.length cs).map fun (n, rest) => ((n : Int), rest)
    | cs => (number 4 cs).map fun (n, rest) => ((n : Int), rest)
  if -(Nat.pow 2 31 : Int) ≤ year ∧ year < Nat.pow 2 31 then .ok (year, rest)
  else .error .outOfRange

/-- A number of at most two digits between two bounds. -/
def pairPart (least greatest : Nat) (cs : List Char) : Except Refusal (Nat × List Char) := do
  let (n, rest) ← number 2 (skipBlanks cs)
  if least ≤ n ∧ n ≤ greatest then .ok (n, rest) else .error .outOfRange

/-- The characters after blanks and a mark. -/
def afterMark (mark : Char) (cs : List Char) : Except Refusal (List Char) :=
  match skipBlanks cs with
  | [] => .error .tooShort
  | c :: rest => if c = mark then .ok rest else .error .invalid

/-- Whether a character is an ASCII digit. -/
def isDigit (c : Char) : Bool :=
  (Text.digit? c).isSome

/-- The nanoseconds of an optional fraction, of which nine digits count. -/
def fractionPart : List Char → Except Refusal (Nat × List Char)
  | '.' :: cs => do
    let (n, rest) ← number 9 cs
    let used := cs.length - rest.length
    return (n * Nat.pow 10 (9 - used), rest.dropWhile isDigit)
  | cs => .ok (0, cs)

/-- The two digits at the front, if there are that many bytes. -/
def digitPair : List Char → Except Refusal (Nat × Nat)
  | [] => .error .tooShort
  | [c] => if c.toNat < 0x80 then .error .tooShort else .error .invalid
  | c :: c' :: _ => match Text.digit? c, Text.digit? c' with
    | some d, some d' => .ok (d, d')
    | _, _ => .error .invalid

/-- Hours and minutes of an offset, with colons and blanks between them. -/
def offsetClock (cs : List Char) : Except Refusal (Nat × List Char) := do
  let (h, h') ← digitPair cs
  let afterHours := (cs.drop 2).dropWhile fun c => c == ':' || Text.isBlank c
  let (m, m') ← digitPair afterHours
  if 6 ≤ m then .error .outOfRange
  else .ok ((10 * h + h') * 3600 + (10 * m + m') * 60, afterHours.drop 2)

/-- The offset from universal time in seconds: a zone letter, or a signed clock time. -/
def signedOffset : List Char → Except Refusal (Int × List Char)
  | [] => .error .tooShort
  | c :: cs =>
    if c = 'Z' ∨ c = 'z' then .ok (0, cs)
    else if c = '+' then (offsetClock cs).map fun (n, rest) => ((n : Int), rest)
    else if c = '-' ∨ c = '−' then (offsetClock cs).map fun (n, rest) => (-(n : Int), rest)
    else .error .invalid

/-- The offset from universal time, which may be given by name. -/
def offsetPart (cs : List Char) : Except Refusal (Int × List Char) :=
  match cs with
  | u :: t :: c :: rest =>
    if u.toLower = 'u' ∧ t.toLower = 't' ∧ c.toLower = 'c' then .ok (0, rest)
    else signedOffset cs
  | _ => signedOffset cs

/-- What the parts of a text say before they are put together. -/
structure Reading where
  date : Date
  hour : Nat
  minute : Nat
  second : Nat
  nanos : Nat
  offset : Int
  deriving DecidableEq, Repr

/-- The first and the last supported day. -/
def supportedDays (days : Int) : Bool :=
  firstSecond ≤ days * 86400 && days * 86400 ≤ lastSecond

/-- The point in time a reading denotes: local time less the offset. -/
def Reading.timestamp (r : Reading) : Except Refusal Timestamp :=
  let days := r.date.toDays
  if !(r.date.exists? && supportedDays days) then .error .outOfRange
  else if 86400 ≤ r.offset.natAbs then .error .outOfRange
  else
    let second : Nat := if r.second = 60 then 59 else r.second
    let leap := if r.second = 60 then nanosPerSecond else 0
    let seconds := days * 86400 + (r.hour * 3600 + r.minute * 60 + second : Nat) - r.offset
    if firstSecond ≤ seconds ∧ seconds ≤ lastSecond then .ok ⟨seconds, r.nanos + leap⟩
    else .error .impossible

/-- The parts of a text, and what is left of it. -/
def reading (cs : List Char) : Except Refusal (Reading × List Char) := do
  let (year, cs) ← yearPart cs
  let cs ← afterMark '-' cs
  let (month, cs) ← pairPart 1 12 cs
  let cs ← afterMark '-' cs
  let (day, cs) ← pairPart 1 31 cs
  let cs ← match cs with
    | [] => .error .tooShort
    | c :: rest => if c = 't' ∨ c = 'T' ∨ c = ' ' then .ok rest else .error .invalid
  let (hour, cs) ← pairPart 0 23 cs
  let cs ← afterMark ':' cs
  let (minute, cs) ← pairPart 0 59 cs
  let cs ← afterMark ':' cs
  let (second, cs) ← pairPart 0 60 cs
  let (nanos, cs) ← fractionPart cs
  let (offset, cs) ← offsetPart (skipBlanks cs)
  return (⟨⟨year, month, day⟩, hour, minute, second, nanos, offset⟩, cs)

/-- The point in time a text denotes. -/
def ofText (s : String) : Except Refusal Timestamp := do
  let (r, rest) ← reading s.toList
  if (skipBlanks rest).isEmpty then r.timestamp else .error .tooLong

end IdentityGateway.Timestamp
