import IdentityGateway.Proofs.Text.Decimal
import IdentityGateway.Proofs.Timestamp.Calendar
import IdentityGateway.Timestamp.Reader

/-!
# Timestamps written and read

A date and a time of day are read from their written parts, also when the year has a sign. The text
of a supported point in time is therefore read as the point in time without its fraction of a
second, and a leap second is read as the same leap second.
-/

namespace IdentityGateway.Timestamp

variable {rest : List Char}

/-! ## Numbers -/

/-- Characters that do not go on with a number. -/
def StopsDigits (cs : List Char) : Prop :=
  ∀ c ∈ cs.head?, Text.digit? c = none

/-- A character that is no digit stops a number. -/
theorem stopsDigits_cons {c : Char} (hc : Text.digit? c = none) (cs : List Char) :
    StopsDigits (c :: cs) := by
  rintro _ ⟨⟩
  exact hc

/-- Digits are read as their value, as far as the width goes. -/
theorem moreDigits_append {ds : List Char} {value width : Nat}
    (hds : ∀ d ∈ ds, d.isDigit = true) (hbound : Nat.ofDigitChars 10 ds value < countBound)
    (hfits : ds.length ≤ width) (hstop : ds.length < width → StopsDigits rest) :
    moreDigits value width (ds ++ rest) = .ok (Nat.ofDigitChars 10 ds value, rest) := by
  induction ds generalizing value width with
  | nil =>
    cases width with
    | zero => rfl
    | succ width =>
      cases rest with
      | nil => rfl
      | cons c rest =>
        have hc : Text.digit? c = none := hstop (Nat.succ_pos width) c rfl
        simp only [List.nil_append, moreDigits, hc, Nat.ofDigitChars_nil]
  | cons d ds ih =>
    cases width with
    | zero => cases hfits
    | succ width =>
      have hd : d.isDigit = true := hds d List.mem_cons_self
      rw [Nat.ofDigitChars_cons] at hbound ⊢
      have hnext : 10 * value + (d.toNat - 48) < countBound :=
        Nat.lt_of_le_of_lt (Text.le_ofDigitChars ds _) hbound
      simp only [List.cons_append, moreDigits, Text.digit?_of_isDigit hd, if_pos hnext]
      exact ih (fun c hc => hds c (List.mem_cons_of_mem d hc)) hbound
        (Nat.le_of_succ_le_succ hfits) fun hlt => hstop (Nat.succ_lt_succ hlt)

/-- A number of some width starts with a digit. -/
theorem isDigit_of_padded_append_eq {least n : Nat} {c : Char} {cs : List Char}
    (hcs : Text.padded least n ++ rest = c :: cs) : c.isDigit = true := by
  cases hds : Text.padded least n with
  | nil => exact absurd hds (Text.padded_ne_nil least n)
  | cons d ds =>
    rw [hds, List.cons_append] at hcs
    injection hcs with hhead
    exact hhead ▸ Text.isDigit_of_mem_padded (hds ▸ List.mem_cons_self)

/-- A written number is read back. -/
theorem number_padded (least : Nat) {n width : Nat} (hn : n < countBound)
    (hfits : (Text.padded least n).length ≤ width)
    (hstop : (Text.padded least n).length < width → StopsDigits rest) :
    number width (Text.padded least n ++ rest) = .ok (n, rest) := by
  have hvalue := Text.ofDigitChars_padded least n
  have hread : moreDigits 0 width (Text.padded least n ++ rest) = .ok (n, rest) := by
    rw [moreDigits_append (fun d => Text.isDigit_of_mem_padded) (by rwa [hvalue]) hfits hstop,
      hvalue]
  cases hcs : Text.padded least n ++ rest with
  | nil => exact absurd (List.append_eq_nil_iff.mp hcs).1 (Text.padded_ne_nil least n)
  | cons c cs =>
    rw [number, Text.digit?_of_isDigit (isDigit_of_padded_append_eq hcs), ← hcs]
    exact hread

/-- A number that fills its width is read back, whatever comes after it. -/
theorem number_padded_self {n width : Nat} (hwidth : 0 < width) (hn : n < Nat.pow 10 width)
    (hbound : n < countBound) :
    number width (Text.padded width n ++ rest) = .ok (n, rest) := by
  have hlength : (Text.padded width n).length = width := Text.length_padded hwidth hn
  exact number_padded width hbound (Nat.le_of_eq hlength)
    fun hlt => absurd hlength (Nat.ne_of_lt hlt)

/-! ## Parts -/

/-- A character that is no blank is not skipped. -/
theorem skipBlanks_cons {c : Char} (hc : Text.isBlank c = false) (cs : List Char) :
    skipBlanks (c :: cs) = c :: cs := by
  rw [skipBlanks, List.dropWhile_cons_of_neg (by simp [hc])]

/-- A number of some width is not skipped. -/
theorem skipBlanks_padded (least n : Nat) (cs : List Char) :
    skipBlanks (Text.padded least n ++ cs) = Text.padded least n ++ cs := by
  cases hcs : Text.padded least n ++ cs with
  | nil => rfl
  | cons c cs =>
    exact skipBlanks_cons (Text.isBlank_of_isDigit (isDigit_of_padded_append_eq hcs)) cs

/-- A written mark is found. -/
theorem afterMark_cons {mark : Char} (hmark : Text.isBlank mark = false) (cs : List Char) :
    afterMark mark (mark :: cs) = .ok cs := by
  rw [afterMark, skipBlanks_cons hmark]
  exact if_pos rfl

/-- Two written digits are read back between bounds. -/
theorem pairPart_pairText {least greatest : Nat} {n : Int} (hlow : (least : Int) ≤ n)
    (hhigh : n ≤ greatest) (hpair : greatest < 100) :
    pairPart least greatest (pairText n ++ rest) = .ok (n.toNat, rest) := by
  have hn : n.toNat < 100 := by omega
  have hread : number 2 (Text.padded 2 n.toNat ++ rest) = .ok (n.toNat, rest) :=
    number_padded_self (by decide) hn (Nat.lt_trans hn (by decide))
  have hbounds : least ≤ n.toNat ∧ n.toNat ≤ greatest := by omega
  simp only [pairPart, pairText, skipBlanks_padded, hread, bind, Except.bind, if_pos hbounds]

/-- A year of four digits is read back. -/
theorem yearPart_padded {n : Nat} (hn : n ≤ 9999) :
    yearPart (Text.padded 4 n ++ rest) = .ok ((n : Int), rest) := by
  have hread : number 4 (Text.padded 4 n ++ rest) = .ok (n, rest) :=
    number_padded_self (by decide) (Nat.lt_succ_of_le hn) (Nat.lt_of_le_of_lt hn (by decide))
  have hrange : -(Nat.pow 2 31 : Int) ≤ (n : Int) ∧ (n : Int) < Nat.pow 2 31 := by
    have hpow : Nat.pow 2 31 = 2147483648 := by decide
    omega
  rw [yearPart, skipBlanks_padded]
  split
  · rename_i hsign
    cases isDigit_of_padded_append_eq hsign
  · rename_i hsign
    cases isDigit_of_padded_append_eq hsign
  · simp only [hread, Except.map, bind, Except.bind, if_pos hrange]

/-- A written year is read back before a mark. -/
theorem yearPart_yearText {year : Int} (hyear : year.natAbs < Nat.pow 2 31) (cs : List Char) :
    yearPart (yearText year ++ '-' :: cs) = .ok (year, '-' :: cs) := by
  have hpow : Nat.pow 2 31 = 2147483648 := by decide
  rw [yearText]
  split
  · rename_i hfour
    rw [yearPart_padded (by omega), Int.toNat_of_nonneg hfour.1]
  · -- a sign allows any number of digits, up to the mark
    have hread : number (Text.padded 4 year.natAbs ++ '-' :: cs).length
        (Text.padded 4 year.natAbs ++ '-' :: cs) = .ok (year.natAbs, '-' :: cs) :=
      number_padded 4 (Nat.lt_trans hyear (by decide)) (by simp) fun _ => stopsDigits_cons rfl cs
    by_cases hneg : year < 0
    · have habs : -(year.natAbs : Int) = year := by omega
      rw [if_pos hneg, List.cons_append, yearPart, skipBlanks_cons (by decide)]
      simp only [hread, Except.map, bind, Except.bind, habs]
      rw [if_pos (by omega)]
    · have habs : (year.natAbs : Int) = year := by omega
      rw [if_neg hneg, List.cons_append, yearPart, skipBlanks_cons (by decide)]
      simp only [hread, Except.map, bind, Except.bind, habs]
      rw [if_pos (by omega)]

/-! ## Dates and times of day -/

/-- A month has at most 31 days. -/
theorem daysInMonth_le (year month : Int) : Date.daysInMonth year month ≤ 31 := by
  rw [Date.daysInMonth]
  split
  · split <;> decide
  · split <;> decide

/-- A time of day, which may be a leap second. -/
structure IsClock (hour minute second : Int) : Prop where
  hour : 0 ≤ hour ∧ hour ≤ 23
  minute : 0 ≤ minute ∧ minute ≤ 59
  second : 0 ≤ second ∧ second ≤ 60

/-- The characters of a date and a time of day. -/
def clockChars (date : Date) (hour minute second : Int) : List Char :=
  yearText date.year ++ '-' :: pairText date.month ++ '-' :: pairText date.day ++
    'T' :: pairText hour ++ ':' :: pairText minute ++ ':' :: pairText second

/-- The characters of a date and a time of day, with a mark between them. -/
def markedChars (mark : Char) (date : Date) (hour minute second : Int) : List Char :=
  yearText date.year ++ '-' :: pairText date.month ++ '-' :: pairText date.day ++
    mark :: pairText hour ++ ':' :: pairText minute ++ ':' :: pairText second

/-- A written date with its time of day is read back behind one of three marks, before its fraction
and its offset. -/
theorem reading_markedChars {mark : Char} (hmark : mark = 't' ∨ mark = 'T' ∨ mark = ' ')
    {date : Date} {hour minute second : Int} (hdate : date.exists? = true)
    (hyear : date.year.natAbs < Nat.pow 2 31) (hclock : IsClock hour minute second)
    (rest : List Char) :
    reading (markedChars mark date hour minute second ++ rest) = (do
      let (nanos, cs) ← fractionPart rest
      let (offset, cs) ← offsetPart (skipBlanks cs)
      return (⟨date, hour.toNat, minute.toNat, second.toNat, nanos, offset⟩, cs)) := by
  obtain ⟨year, month, day⟩ := date
  simp only [Date.exists?, Bool.and_eq_true, decide_eq_true_eq] at hdate
  obtain ⟨⟨⟨hmonthLow, hmonthHigh⟩, hdayLow⟩, hdayHigh⟩ := hdate
  have hmonth : (month.toNat : Int) = month := Int.toNat_of_nonneg (by omega)
  have hday : (day.toNat : Int) = day := Int.toNat_of_nonneg (by omega)
  have hdayMost : day ≤ 31 := Int.le_trans hdayHigh (daysInMonth_le year month)
  have hmonthPart : ∀ cs, pairPart 1 12 (pairText month ++ cs) = .ok (month.toNat, cs) :=
    fun _ => pairPart_pairText hmonthLow hmonthHigh (by decide)
  have hdayPart : ∀ cs, pairPart 1 31 (pairText day ++ cs) = .ok (day.toNat, cs) :=
    fun _ => pairPart_pairText hdayLow hdayMost (by decide)
  have hhourPart : ∀ cs, pairPart 0 23 (pairText hour ++ cs) = .ok (hour.toNat, cs) :=
    fun _ => pairPart_pairText hclock.hour.1 hclock.hour.2 (by decide)
  have hminutePart : ∀ cs, pairPart 0 59 (pairText minute ++ cs) = .ok (minute.toNat, cs) :=
    fun _ => pairPart_pairText hclock.minute.1 hclock.minute.2 (by decide)
  have hsecondPart : ∀ cs, pairPart 0 60 (pairText second ++ cs) = .ok (second.toNat, cs) :=
    fun _ => pairPart_pairText hclock.second.1 hclock.second.2 (by decide)
  simp only [markedChars, List.append_assoc, List.cons_append, reading, bind, Except.bind,
    yearPart_yearText hyear, afterMark_cons (show Text.isBlank '-' = false from rfl),
    afterMark_cons (show Text.isBlank ':' = false from rfl), hmonthPart, hdayPart, hhourPart,
    hminutePart, hsecondPart, hmonth, hday, hmark, if_true]

/-- A written date with its time of day is read back, before its fraction and its offset. -/
theorem reading_clockChars {date : Date} {hour minute second : Int} (hdate : date.exists? = true)
    (hyear : date.year.natAbs < Nat.pow 2 31) (hclock : IsClock hour minute second)
    (rest : List Char) :
    reading (clockChars date hour minute second ++ rest) = (do
      let (nanos, cs) ← fractionPart rest
      let (offset, cs) ← offsetPart (skipBlanks cs)
      return (⟨date, hour.toNat, minute.toNat, second.toNat, nanos, offset⟩, cs)) :=
  reading_markedChars (.inr (.inl rfl)) hdate hyear hclock rest

/-! ## Points in time -/

/-- The second of a minute, which is the sixtieth for a leap second. -/
def secondOfMinute (t : Timestamp) : Int :=
  t.seconds % 86400 % 60 + if t.nanos < nanosPerSecond then 0 else 1

/-- The text of a point in time is its date and its time of day with an offset of zero. -/
theorem text_eq (t : Timestamp) :
    t.text = String.ofList (clockChars (Date.ofDays (t.seconds / 86400))
      (t.seconds % 86400 / 3600) (t.seconds % 86400 / 60 % 60) t.secondOfMinute ++
        "+00:00".toList) := by
  rw [text, secondOfMinute]
  split <;> rfl

variable {t : Timestamp}

/-- The day of a supported point in time is supported. -/
theorem supportedDays_of_isSupported (ht : t.isSupported = true) :
    supportedDays (t.seconds / 86400) = true := by
  have hfirst : firstSecond = -8334601228800 := rfl
  simp only [isSupported, Bool.and_eq_true, decide_eq_true_eq] at ht
  simp only [supportedDays, Bool.and_eq_true, decide_eq_true_eq]
  omega

/-- The year of a supported day is in the range that is read. -/
theorem natAbs_year_ofDays {days : Int} (hdays : supportedDays days = true) :
    (Date.ofDays days).year.natAbs < Nat.pow 2 31 := by
  have hfirst : firstSecond = -8334601228800 := rfl
  have hlast : lastSecond = 8210266876799 := rfl
  simp only [supportedDays, Bool.and_eq_true, decide_eq_true_eq] at hdays
  have hyear := Date.year_ofDays_bounds days (by omega) (by omega)
  have hpow : Nat.pow 2 31 = 2147483648 := by decide
  omega

/-- A leap second comes after the last second of a minute. -/
theorem secondOfMinute_cases (ht : t.isSupported = true) :
    (t.nanos < nanosPerSecond ∧ t.secondOfMinute = t.seconds % 60) ∨
      (¬ t.nanos < nanosPerSecond ∧ t.secondOfMinute = 60 ∧ t.seconds % 60 = 59) := by
  simp only [isSupported, Bool.and_eq_true, Bool.or_eq_true, decide_eq_true_eq, beq_iff_eq] at ht
  by_cases hnanos : t.nanos < nanosPerSecond
  · rw [secondOfMinute, if_pos hnanos]
    exact .inl ⟨hnanos, by omega⟩
  · rw [secondOfMinute, if_neg hnanos]
    exact .inr ⟨hnanos, by omega⟩

/-- A supported point in time has a time of day. -/
theorem isClock_of_isSupported (ht : t.isSupported = true) :
    IsClock (t.seconds % 86400 / 3600) (t.seconds % 86400 / 60 % 60) t.secondOfMinute := by
  have hsecond := secondOfMinute_cases ht
  exact ⟨by omega, by omega, by omega⟩

/-- The date and the time of day of a supported point in time denote it without its fraction. -/
theorem Reading.timestamp_utc (ht : t.isSupported = true) :
    Reading.timestamp ⟨Date.ofDays (t.seconds / 86400), (t.seconds % 86400 / 3600).toNat,
      (t.seconds % 86400 / 60 % 60).toNat, t.secondOfMinute.toNat, 0, 0⟩ = .ok t.wholeSeconds := by
  have hdays := supportedDays_of_isSupported ht
  have hsecond := secondOfMinute_cases ht
  simp only [isSupported, Bool.and_eq_true, decide_eq_true_eq] at ht
  simp only [Reading.timestamp, Date.toDays_ofDays, Date.exists_ofDays, hdays, Bool.and_self,
    Bool.not_true, Bool.false_eq_true, if_false, Int.natAbs_zero, wholeSeconds]
  rw [if_neg (by decide)]
  rcases hsecond with ⟨hnanos, hsecond⟩ | ⟨hnanos, hsecond, hlast⟩
  · have hsixty : t.secondOfMinute.toNat ≠ 60 := by omega
    have hseconds : t.seconds / 86400 * 86400 + (((t.seconds % 86400 / 3600).toNat * 3600 +
        (t.seconds % 86400 / 60 % 60).toNat * 60 + t.secondOfMinute.toNat : Nat) : Int) - 0 =
        t.seconds := by omega
    rw [if_neg hsixty, if_neg hsixty, if_pos hnanos, hseconds, if_pos ht.1]
  · have hsixty : t.secondOfMinute.toNat = 60 := by omega
    have hseconds : t.seconds / 86400 * 86400 + (((t.seconds % 86400 / 3600).toNat * 3600 +
        (t.seconds % 86400 / 60 % 60).toNat * 60 + 59 : Nat) : Int) - 0 = t.seconds := by omega
    rw [if_pos hsixty, if_pos hsixty, if_neg hnanos, hseconds, if_pos ht.1, Nat.zero_add]

/-- The text of a supported point in time is read as the point in time without its fraction. -/
theorem ofText_text (ht : t.isSupported = true) : ofText t.text = .ok t.wholeSeconds := by
  have hread := reading_clockChars (Date.exists_ofDays _)
    (natAbs_year_ofDays (supportedDays_of_isSupported ht)) (isClock_of_isSupported ht)
    "+00:00".toList
  have hfraction : fractionPart "+00:00".toList = .ok (0, "+00:00".toList) := rfl
  have hoffset : offsetPart (skipBlanks "+00:00".toList) = .ok (0, []) := rfl
  rw [hfraction] at hread
  simp only [bind, Except.bind, hoffset] at hread
  rw [ofText, text_eq, String.toList_ofList, hread]
  exact Reading.timestamp_utc ht

/-- A fraction of a second is not shown. -/
theorem text_wholeSeconds (t : Timestamp) : t.wholeSeconds.text = t.text := by
  have hsecond : t.wholeSeconds.secondOfMinute = t.secondOfMinute := by
    by_cases hnanos : t.nanos < nanosPerSecond
    · simp only [secondOfMinute, wholeSeconds, if_pos hnanos]
      rfl
    · simp only [secondOfMinute, wholeSeconds, if_neg hnanos]
      rfl
  rw [text_eq, text_eq, hsecond]
  rfl

end IdentityGateway.Timestamp
