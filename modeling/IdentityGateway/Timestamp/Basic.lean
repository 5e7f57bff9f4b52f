import IdentityGateway.Timestamp.Calendar
import IdentityGateway.Text.Decimal

/-!
# Timestamps

Points in time as seconds from 1970 in universal time with nanoseconds, and their text
to whole seconds. A leap second is the sixtieth second of a minute with at least a
billion nanoseconds.
-/

namespace IdentityGateway

/-- A point in time. -/
structure Timestamp where
  seconds : Int
  nanos : Nat
  deriving DecidableEq, Repr

namespace Timestamp

/-- The point from which on nanoseconds belong to a leap second. -/
def nanosPerSecond : Nat := 1000000000

/-- The first second of the supported years, of which the earliest is -262143. -/
def firstSecond : Int := -8334601228800

/-- The last second of the supported years, of which the latest is 262142. -/
def lastSecond : Int := 8210266876799

/-- Whether a point in time is supported: a leap second only ends a minute. -/
def isSupported (t : Timestamp) : Bool :=
  firstSecond ≤ t.seconds && t.seconds ≤ lastSecond &&
    (t.nanos < nanosPerSecond || (t.seconds % 60 == 59 && t.nanos < 2 * nanosPerSecond))

/-- Whether a point in time lies strictly before another. -/
def before (s t : Timestamp) : Bool :=
  s.seconds < t.seconds || (s.seconds == t.seconds && s.nanos < t.nanos)

/-- The point in time some seconds later. -/
def addSeconds (t : Timestamp) (n : Nat) : Timestamp :=
  { t with seconds := t.seconds + n }

/-- A point in time without its fraction of a second. -/
def wholeSeconds (t : Timestamp) : Timestamp :=
  { t with nanos := if t.nanos < nanosPerSecond then 0 else nanosPerSecond }

/-- A year has four digits; any other has a sign and at least four. -/
def yearText (year : Int) : List Char :=
  if 0 ≤ year ∧ year ≤ 9999 then Text.padded 4 year.toNat
  else (if year < 0 then '-' else '+') :: Text.padded 4 year.natAbs

/-- Two digits. -/
def pairText (n : Int) : List Char :=
  Text.padded 2 n.toNat

/-- The text of a point in time in universal time, to the second. -/
def text (t : Timestamp) : String :=
  let date := Date.ofDays (t.seconds / 86400)
  let second := t.seconds % 86400
  let leap := if t.nanos < nanosPerSecond then 0 else 1
  String.ofList (yearText date.year ++ '-' :: pairText date.month ++ '-' :: pairText date.day ++
    'T' :: pairText (second / 3600) ++ ':' :: pairText (second / 60 % 60) ++
    ':' :: pairText (second % 60 + leap) ++ "+00:00".toList)

end Timestamp

end IdentityGateway
