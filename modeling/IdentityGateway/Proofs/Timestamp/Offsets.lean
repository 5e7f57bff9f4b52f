import Mathlib.Data.List.Basic
import IdentityGateway.Proofs.Timestamp.Days
import IdentityGateway.Proofs.Timestamp.Written

/-!
# Local times with an offset

A local time that is written with its offset is read as the point in time that it denotes. The point
in time is shown as the local time less the offset, where a day may be carried to the month and the
year before or after.
-/

namespace IdentityGateway.Timestamp

/-- A date and a time of day, which may be a leap second, with up to nine digits of a fraction. -/
structure LocalTime where
  date : Date
  hour : Int
  minute : Int
  second : Int
  fraction : List Char
  exists_date : date.exists? = true
  isClock : IsClock hour minute second
  isDigit : ∀ d ∈ fraction, d.isDigit = true
  length_le : fraction.length ≤ 9

/-- The characters of a fraction, which may be left out. -/
def fractionChars : List Char → List Char
  | [] => []
  | d :: ds => '.' :: d :: ds

/-- The texts that name an offset in minutes: a letter for none, or a sign, hours and minutes. -/
inductive OffsetText : Int → List Char → Prop
  | universal {letter : Char} (hletter : letter = 'Z' ∨ letter = 'z') : OffsetText 0 [letter]
  | east {hour minute : Int} (hhour : 0 ≤ hour ∧ hour ≤ 23) (hminute : 0 ≤ minute ∧ minute ≤ 59) :
      OffsetText (hour * 60 + minute) ('+' :: pairText hour ++ ':' :: pairText minute)
  | west {hour minute : Int} (hhour : 0 ≤ hour ∧ hour ≤ 23) (hminute : 0 ≤ minute ∧ minute ≤ 59) :
      OffsetText (-(hour * 60 + minute)) ('-' :: pairText hour ++ ':' :: pairText minute)

namespace LocalTime

/-- A text is that of a local time with an offset in minutes. -/
inductive Written (t : LocalTime) (offset : Int) : String → Prop
  | intro {mark : Char} {zone : List Char} (hmark : mark = 't' ∨ mark = 'T' ∨ mark = ' ')
      (hzone : OffsetText offset zone) :
      Written t offset (String.ofList (markedChars mark t.date t.hour t.minute t.second ++
        (fractionChars t.fraction ++ zone)))

/-- The nanoseconds of a local time. -/
def nanos (t : LocalTime) : Nat :=
  Nat.ofDigitChars 10 t.fraction 0 * Nat.pow 10 (9 - t.fraction.length)

/-- A point in time is a local time less its offset in minutes, where days are counted from
1 January 1970. A leap second is the second before it with a billion nanoseconds more. -/
structure Denotes (t : LocalTime) (offset : Int) (instant : Timestamp) : Prop where
  seconds : ∃ days, Date.CountedAs t.date days ∧ instant.seconds =
    (days * 1440 + t.hour * 60 + t.minute - offset) * 60 + min t.second 59
  nanos : instant.nanos = t.nanos + if t.second = 60 then nanosPerSecond else 0

/-- The point in time of a local time less an offset. -/
def instant (t : LocalTime) (offset : Int) : Timestamp where
  seconds := (t.date.toDays * 1440 + t.hour * 60 + t.minute - offset) * 60 + min t.second 59
  nanos := t.nanos + if t.second = 60 then nanosPerSecond else 0

/-- The minutes from the beginning of the date to a local time less an offset. -/
def minutesLess (t : LocalTime) (offset : Int) : Int :=
  t.hour * 60 + t.minute - offset

/-- A local time less an offset: it may be on the day before or on the day after. -/
def less (t : LocalTime) (offset : Int) : LocalTime where
  date :=
    if t.minutesLess offset < 0 then t.date.previous
    else if t.minutesLess offset < 1440 then t.date
    else t.date.next
  hour := t.minutesLess offset % 1440 / 60
  minute := t.minutesLess offset % 60
  second := t.second
  fraction := t.fraction
  exists_date := by
    split
    · exact Date.exists_previous t.exists_date
    · split
      · exact t.exists_date
      · exact Date.exists_next t.exists_date
  isClock := ⟨by omega, by omega, t.isClock.second⟩
  isDigit := t.isDigit
  length_le := t.length_le

end LocalTime

section

variable {t : LocalTime} {offset : Int} {point : Timestamp} {s : String} {rest : List Char}

/-! ## Reading fractions and offsets -/

/-- Digits of a fraction make up nanoseconds within a second. -/
theorem LocalTime.nanos_lt (t : LocalTime) : t.nanos < nanosPerSecond := by
  have hlength := t.length_le
  calc t.nanos
      < Nat.pow 10 t.fraction.length * Nat.pow 10 (9 - t.fraction.length) := by
        have hvalue := Text.ofDigitChars_lt t.isDigit 0
        rw [Nat.zero_add, Nat.one_mul] at hvalue
        exact Nat.mul_lt_mul_of_pos_right hvalue (Nat.pow_pos (by decide))
    _ = nanosPerSecond := by
        rw [Nat.pow_eq, Nat.pow_eq, ← Nat.pow_add, Nat.add_sub_cancel' hlength]
        rfl

/-- A written fraction is read back as its nanoseconds. -/
theorem fractionPart_fractionChars (t : LocalTime) (hrest : StopsDigits rest)
    (hpoint : '.' ∉ rest.head?) :
    fractionPart (fractionChars t.fraction ++ rest) = .ok (t.nanos, rest) := by
  have hlength := t.length_le
  have hvalue := Text.ofDigitChars_lt t.isDigit 0
  have hdigits := t.isDigit
  unfold LocalTime.nanos
  generalize t.fraction = fraction at hlength hvalue hdigits ⊢
  cases fraction with
  | nil =>
    cases rest with
    | nil => rfl
    | cons c rest =>
      have hc : c ≠ '.' := fun h => hpoint (h ▸ rfl)
      simp only [fractionChars, List.nil_append]
      unfold fractionPart
      split
      · next heq => exact absurd (List.cons.inj heq).1 hc
      · rfl
  | cons d ds =>
    have hbound : Nat.ofDigitChars 10 (d :: ds) 0 < countBound := by
      refine Nat.lt_of_lt_of_le hvalue ?_
      rw [Nat.zero_add, Nat.one_mul]
      exact Nat.le_trans (Nat.pow_le_pow_right (by decide) hlength) (by decide)
    have hread : moreDigits 0 9 (d :: ds ++ rest) =
        .ok (Nat.ofDigitChars 10 (d :: ds) 0, rest) :=
      moreDigits_append hdigits hbound hlength fun _ => hrest
    have hd : Text.digit? d = some (d.toNat - 48) :=
      Text.digit?_of_isDigit (hdigits d List.mem_cons_self)
    have hafter : rest.dropWhile isDigit = rest := by
      cases rest with
      | nil => rfl
      | cons c rest =>
        have hc : isDigit c = false := by rw [isDigit, hrest c rfl]; rfl
        exact List.dropWhile_cons_of_neg (by simp [hc])
    have hused : (d :: ds ++ rest).length - rest.length = (d :: ds).length := by
      rw [List.length_append, Nat.add_sub_cancel]
    simp only [fractionChars, List.cons_append] at hread hused ⊢
    simp only [fractionPart, number, hd, hread, bind, Except.bind, hused, hafter]
    rfl

/-- A number of two digits is written with them. -/
theorem exists_digits_of_pairText {n : Int} (hn : 0 ≤ n ∧ n ≤ 99) :
    ∃ c c', pairText n = [c, c'] ∧ c.isDigit = true ∧ c'.isDigit = true ∧
      ((10 * (c.toNat - 48) + (c'.toNat - 48) : Nat) : Int) = n := by
  have hlength : (pairText n).length = 2 :=
    Text.length_padded (by decide) (show n.toNat < 100 by omega)
  have hdigits : ∀ c ∈ pairText n, c.isDigit = true := fun c => Text.isDigit_of_mem_padded
  have hvalue : Nat.ofDigitChars 10 (pairText n) 0 = n.toNat := Text.ofDigitChars_padded 2 n.toNat
  obtain ⟨c, c', hpair⟩ := List.length_eq_two.mp hlength
  rw [hpair, List.forall_mem_cons, List.forall_mem_singleton] at hdigits
  rw [hpair, Nat.ofDigitChars_cons, Nat.ofDigitChars_cons, Nat.ofDigitChars_nil] at hvalue
  have hzero : '0'.toNat = 48 := rfl
  exact ⟨c, c', hpair, hdigits.1, hdigits.2, by omega⟩

/-- Hours and minutes of a written offset are read back. -/
theorem offsetClock_pairText {hour minute : Int} (hhour : 0 ≤ hour ∧ hour ≤ 23)
    (hminute : 0 ≤ minute ∧ minute ≤ 59) :
    ∃ seconds : Nat, offsetClock (pairText hour ++ ':' :: pairText minute) = .ok (seconds, []) ∧
      (seconds : Int) = (hour * 60 + minute) * 60 := by
  obtain ⟨h, h', hpair, hh, hh', hvalue⟩ := exists_digits_of_pairText ⟨hhour.1, by omega⟩
  obtain ⟨m, m', hpair', hm, hm', hvalue'⟩ := exists_digits_of_pairText ⟨hminute.1, by omega⟩
  have hcolon : (':' :: [m, m']).dropWhile (fun c => c == ':' || Text.isBlank c) = [m, m'] := by
    have hne : m ≠ ':' := by
      rintro rfl
      cases hm
    rw [List.dropWhile_cons_of_pos (by rfl), List.dropWhile_cons_of_neg]
    simp [hne, Text.isBlank_of_isDigit hm]
  have hrange := Text.toNat_of_isDigit hm'
  have hsix : ¬ 6 ≤ m.toNat - 48 := by omega
  refine ⟨(10 * (h.toNat - 48) + (h'.toNat - 48)) * 3600 +
    (10 * (m.toNat - 48) + (m'.toNat - 48)) * 60, ?_, by omega⟩
  simp only [hpair, hpair', offsetClock, List.cons_append, List.nil_append, digitPair,
    Text.digit?_of_isDigit hh, Text.digit?_of_isDigit hh', Text.digit?_of_isDigit hm,
    Text.digit?_of_isDigit hm', List.drop_succ_cons, List.drop_zero, hcolon, bind, Except.bind,
    if_neg hsix]

/-- What does not start like a name is read as a signed offset. -/
theorem offsetPart_cons {c : Char} (hc : c.toLower ≠ 'u') (cs : List Char) :
    offsetPart (c :: cs) = signedOffset (c :: cs) := by
  unfold offsetPart
  split
  · next heq =>
    obtain ⟨rfl, -⟩ := List.cons.inj heq
    exact if_neg fun hname => hc hname.1
  · rfl

/-- A written offset is read back. -/
theorem offsetPart_of_offsetText {zone : List Char} (h : OffsetText offset zone) :
    offsetPart (skipBlanks zone) = .ok (offset * 60, []) := by
  cases h with
  | universal hletter => rcases hletter with rfl | rfl <;> rfl
  | east hhour hminute =>
    obtain ⟨seconds, hread, hvalue⟩ := offsetClock_pairText hhour hminute
    rw [List.cons_append, skipBlanks_cons rfl, offsetPart_cons (by decide), signedOffset,
      if_neg (by decide), if_pos rfl, hread, ← hvalue]
    rfl
  | west hhour hminute =>
    obtain ⟨seconds, hread, hvalue⟩ := offsetClock_pairText hhour hminute
    rw [List.cons_append, skipBlanks_cons rfl, offsetPart_cons (by decide), signedOffset,
      if_neg (by decide), if_neg (by decide), if_pos (.inl rfl), hread, Int.neg_mul, ← hvalue]
    rfl

/-- No offset reaches a whole day, so a date moves by one day at most. -/
theorem OffsetText.lt_day {zone : List Char} (h : OffsetText offset zone) :
    -1440 < offset ∧ offset < 1440 := by
  cases h <;> omega

/-- The offset of a written local time is less than a day. -/
theorem LocalTime.Written.lt_day (h : t.Written offset s) : -1440 < offset ∧ offset < 1440 := by
  obtain ⟨-, hzone⟩ := h
  exact hzone.lt_day

/-- An offset starts with neither a digit nor a point. -/
theorem OffsetText.head {zone : List Char} (h : OffsetText offset zone) :
    StopsDigits zone ∧ '.' ∉ zone.head? := by
  cases h with
  | universal hletter => rcases hletter with rfl | rfl <;> exact ⟨stopsDigits_cons rfl _, by simp⟩
  | east hhour hminute => exact ⟨stopsDigits_cons rfl _, by simp⟩
  | west hhour hminute => exact ⟨stopsDigits_cons rfl _, by simp⟩

/-! ## Points in time -/

namespace LocalTime

/-- A local time with an offset denotes one point in time. -/
theorem denotes_iff : t.Denotes offset point ↔ t.instant offset = point := by
  constructor
  · rintro ⟨⟨days, hdays, hseconds⟩, hnanos⟩
    obtain rfl := (Date.countedAs_iff t.exists_date).mp hdays
    obtain ⟨seconds, nanos⟩ := point
    exact congr (congrArg Timestamp.mk hseconds.symm) hnanos.symm
  · rintro rfl
    exact ⟨⟨_, (Date.countedAs_iff t.exists_date).mpr rfl, rfl⟩, rfl⟩

/-- The number of the date of a local time less an offset within a day. -/
theorem toDays_less (t : LocalTime) (hoffset : -1440 < offset ∧ offset < 1440) :
    (t.less offset).date.toDays = t.date.toDays + t.minutesLess offset / 1440 := by
  have hhour := t.isClock.hour
  have hminute := t.isClock.minute
  have hminutes : t.minutesLess offset = t.hour * 60 + t.minute - offset := rfl
  simp only [less]
  split
  · rw [Date.toDays_previous t.exists_date]
    omega
  · split
    · omega
    · rw [Date.toDays_next t.exists_date]
      omega

/-- A local time less an offset is the same point in time in universal time. -/
theorem instant_less (t : LocalTime) (hoffset : -1440 < offset ∧ offset < 1440) :
    (t.less offset).instant 0 = t.instant offset := by
  have hdays := t.toDays_less hoffset
  have hminutes : t.minutesLess offset = t.hour * 60 + t.minute - offset := rfl
  have hhour : (t.less offset).hour = t.minutesLess offset % 1440 / 60 := rfl
  have hminute : (t.less offset).minute = t.minutesLess offset % 60 := rfl
  have hsecond : (t.less offset).second = t.second := rfl
  have hnanos : (t.less offset).nanos = t.nanos := rfl
  simp only [instant, hdays, hhour, hminute, hsecond, hnanos, Timestamp.mk.injEq, and_true]
  omega

/-- A leap second is the only one with a billion nanoseconds. -/
theorem nanos_instant_lt_iff (t : LocalTime) (offset : Int) :
    (t.instant offset).nanos < nanosPerSecond ↔ t.second ≠ 60 := by
  have hnanos := t.nanos_lt
  simp only [instant]
  split <;> omega

/-- A local time whose date and point in time are supported. -/
structure Supported (t : LocalTime) (offset : Int) : Prop where
  days : supportedDays t.date.toDays = true
  seconds : firstSecond ≤ (t.instant offset).seconds ∧ (t.instant offset).seconds ≤ lastSecond

/-- The point in time of a supported local time is supported. -/
theorem Supported.isSupported (h : t.Supported offset) : (t.instant offset).isSupported = true := by
  have hnanos := t.nanos_lt
  have hsecond := t.isClock.second
  simp only [Timestamp.isSupported, Bool.and_eq_true, Bool.or_eq_true, decide_eq_true_eq,
    beq_iff_eq, h.seconds, true_and, and_self, nanos_instant_lt_iff]
  by_cases hleap : t.second = 60
  · right
    simp only [instant, hleap, if_true]
    omega
  · exact .inl hleap

/-- The parts of a supported local time are put together to its point in time. -/
theorem Supported.timestamp_reading (h : t.Supported offset)
    (hoffset : -1440 < offset ∧ offset < 1440) :
    Reading.timestamp ⟨t.date, t.hour.toNat, t.minute.toNat, t.second.toNat, t.nanos,
      offset * 60⟩ = .ok (t.instant offset) := by
  obtain ⟨hhour, hminute, hsecond⟩ := t.isClock
  have hday : ¬ 86400 ≤ (offset * 60).natAbs := by omega
  have hleap : t.second.toNat = 60 ↔ t.second = 60 := by omega
  have hseconds : t.date.toDays * 86400 + ((t.hour.toNat * 3600 + t.minute.toNat * 60 +
      (if t.second = 60 then 59 else t.second.toNat) : Nat) : Int) - offset * 60 =
      (t.instant offset).seconds := by
    simp only [instant]
    split <;> omega
  simp only [Reading.timestamp, t.exists_date, h.days, Bool.and_self, Bool.not_true,
    Bool.false_eq_true, if_false, if_neg hday, hleap, hseconds, if_pos h.seconds]
  rfl

/-- A written local time is read as its point in time. -/
theorem Supported.ofText_of_written (h : t.Supported offset) (hs : t.Written offset s) :
    ofText s = .ok (t.instant offset) := by
  obtain @⟨mark, zone, hmark, hzone⟩ := hs
  have hyear : t.date.year.natAbs < Nat.pow 2 31 := by
    have hyear := natAbs_year_ofDays h.days
    rwa [Date.ofDays_toDays t.exists_date] at hyear
  have hread := reading_markedChars hmark t.exists_date hyear t.isClock
    (fractionChars t.fraction ++ zone)
  obtain ⟨hdigit, hpoint⟩ := hzone.head
  rw [fractionPart_fractionChars t hdigit hpoint] at hread
  simp only [bind, Except.bind, offsetPart_of_offsetText hzone] at hread
  rw [ofText, String.toList_ofList, hread]
  exact h.timestamp_reading hzone.lt_day

/-- A point in time is shown as the local time in universal time. -/
theorem text_instant (t : LocalTime) : (t.instant 0).text =
    String.ofList (clockChars t.date t.hour t.minute t.second ++ "+00:00".toList) := by
  obtain ⟨hhour, hminute, hsecond⟩ := t.isClock
  have hseconds : (t.instant 0).seconds =
      (t.date.toDays * 1440 + t.hour * 60 + t.minute - 0) * 60 + min t.second 59 := rfl
  have hdate : Date.ofDays ((t.instant 0).seconds / 86400) = t.date := by
    rw [show (t.instant 0).seconds / 86400 = t.date.toDays by omega,
      Date.ofDays_toDays t.exists_date]
  have hhour' : (t.instant 0).seconds % 86400 / 3600 = t.hour := by omega
  have hminute' : (t.instant 0).seconds % 86400 / 60 % 60 = t.minute := by omega
  have hsecond' : (t.instant 0).secondOfMinute = t.second := by
    rw [secondOfMinute]
    split
    · next hnanos =>
      rw [nanos_instant_lt_iff] at hnanos
      omega
    · next hnanos =>
      rw [nanos_instant_lt_iff, not_ne_iff] at hnanos
      omega
  rw [text_eq, hdate, hhour', hminute', hsecond']

/-- A local time with a year of four digits is not far from 1970. -/
theorem seconds_bounds (hyear : 0 ≤ t.date.year ∧ t.date.year ≤ 9999)
    (hoffset : -1440 < offset ∧ offset < 1440) :
    -1000000000000 ≤ (t.instant offset).seconds ∧
      (t.instant offset).seconds ≤ 1000000000000 := by
  have hdays : -1000000 ≤ t.date.toDays ∧ t.date.toDays ≤ 10000000 := by
    obtain ⟨hmonth, hday, hmost⟩ := Date.exists?_iff.mp t.exists_date
    obtain ⟨year, month, hmarch⟩ := Date.exists_fromMarch hmonth
    have hlength := daysInMonth_le t.date.year t.date.month
    rw [hmarch.toDays_eq]
    unfold Date.FromMarch at hmarch
    omega
  obtain ⟨hhour, hminute, hsecond⟩ := t.isClock
  simp only [instant]
  omega

/-- A local time is supported if its point in time is not far from 1970. -/
theorem supported_of_bounds (hoffset : -1440 < offset ∧ offset < 1440)
    (hlow : -1000000000000 ≤ (t.instant offset).seconds)
    (hhigh : (t.instant offset).seconds ≤ 1000000000000) : t.Supported offset := by
  have hfirst : firstSecond = -8334601228800 := rfl
  have hlast : lastSecond = 8210266876799 := rfl
  obtain ⟨hhour, hminute, hsecond⟩ := t.isClock
  constructor
  case days =>
    simp only [instant] at hlow hhigh
    simp only [supportedDays, Bool.and_eq_true, decide_eq_true_eq]
    omega
  case seconds => omega

end LocalTime

end

end IdentityGateway.Timestamp
