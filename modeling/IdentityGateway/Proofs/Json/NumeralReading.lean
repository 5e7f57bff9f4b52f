import IdentityGateway.Json.Reader
import IdentityGateway.Proofs.Json.NumeralForms

/-!
# Numerals that are read

What is read as a number has the form of a numeral. It is an integer only if it is written as one,
and an integer that is written is read if it has 64 bits.
-/

namespace IdentityGateway.Json

open Byte

/-- What the reader leaves of a numeral: its text is one of the grammar, and if an integer came out,
that of the integer. -/
structure NumberText (text : List UInt8) (x : Number) : Prop where
  form : NumeralForm text
  integer : ∀ n, x = .integer n → IntegerText text n

namespace Numeral

variable {bs rest ds : List UInt8} {negative up : Bool} {n count : Nat} {start : Int} {x : Number}

/-! ## Numbers that are no integers -/

/-- The number is a double-precision number. -/
def IsReal (x : Number) : Prop := ∃ y, x = .real y

/-- A number that is made of a significand and an exponent is no integer. -/
theorem real_eq_ok {bs : List UInt8} (h : real negative n start bs = .ok (x, rest)) :
    rest = bs ∧ IsReal x := by
  unfold real at h
  split at h
  · next y _ =>
    cases h
    exact ⟨rfl, y, rfl⟩
  · cases h

/-- Behind the first digit of an exponent there are digits. -/
theorem exists_exponentDigits {exponent : Nat}
    (h : exponentDigits negative n start up exponent bs = .ok (x, rest)) :
    ∃ ds, bs = ds ++ rest ∧ (∀ d ∈ ds, isDigit d = true) ∧ IsReal x := by
  induction bs generalizing exponent with
  | nil =>
    obtain ⟨rfl, hx⟩ := real_eq_ok h
    exact ⟨[], rfl, List.forall_mem_nil _, hx⟩
  | cons b bs ih =>
    rw [exponentDigits] at h
    split at h
    · next hb =>
      simp only at h
      split at h
      · obtain ⟨ds, rfl, hds, hx⟩ := ih h
        exact ⟨b :: ds, rfl, List.forall_mem_cons.mpr ⟨hb, hds⟩, hx⟩
      · split at h
        · cases h
        · obtain ⟨rfl, hx⟩ := real_eq_ok h
          obtain ⟨ds, hbs, hds⟩ := exists_digits bs
          exact ⟨b :: ds, by rw [List.cons_append, ← hbs], List.forall_mem_cons.mpr ⟨hb, hds⟩, hx⟩
    · obtain ⟨rfl, hx⟩ := real_eq_ok h
      exact ⟨[], rfl, List.forall_mem_nil _, hx⟩

/-- Behind the mark of an exponent there are a sign and digits. -/
theorem exists_exponentRead (h : exponent negative n start bs = .ok (x, rest)) :
    ∃ sign ds, bs = sign ++ (ds ++ rest) ∧ SignForm sign ∧ Digits ds ∧ IsReal x := by
  unfold exponent at h
  split at h
  next up after heq =>
  -- what comes after the sign is the same for every sign
  have hsign : ∃ sign, bs = sign ++ after ∧ SignForm sign := by
    split at heq
    · cases heq
      exact ⟨[plus], rfl, .plus⟩
    · cases heq
      exact ⟨[minus], rfl, .minus⟩
    · cases heq
      exact ⟨[], rfl, .absent⟩
  obtain ⟨sign, rfl, hsign⟩ := hsign
  cases after with
  | nil => cases h
  | cons b after =>
    simp only at h
    split at h
    · next hb =>
      obtain ⟨ds, rfl, hds, hx⟩ := exists_exponentDigits h
      exact ⟨sign, b :: ds, rfl, hsign, .cons hb hds, hx⟩
    · cases h

/-- What the reader takes in behind the mark of an exponent makes up one of the grammar. -/
theorem exists_exponentForm_of_mark (hstart : startsExponent bs = true)
    (h : exponent negative n start (bs.drop 1) = .ok (x, rest)) :
    ∃ exponent, bs = exponent ++ rest ∧ ExponentForm exponent ∧ IsReal x := by
  cases bs with
  | nil => cases hstart
  | cons b bs =>
    simp only [startsExponent, Bool.or_eq_true, beq_iff_eq] at hstart
    obtain ⟨sign, ds, hbs, hsign, hds, hx⟩ := exists_exponentRead h
    rw [List.drop_one, List.tail_cons] at hbs
    refine ⟨b :: (sign ++ ds), ?_, .present hstart hsign hds, hx⟩
    rw [hbs, List.cons_append, List.append_assoc]

/-- What is read where an exponent may be is one or nothing. -/
theorem exists_exponentForm_of_maybe (h : maybeExponent negative n start bs = .ok (x, rest)) :
    ∃ exponent, bs = exponent ++ rest ∧ ExponentForm exponent ∧ IsReal x := by
  unfold maybeExponent at h
  split at h
  · next hstart => exact exists_exponentForm_of_mark hstart h
  · obtain ⟨rfl, hx⟩ := real_eq_ok h
    exact ⟨[], rfl, .absent, hx⟩

/-- Behind some digits of a fraction there are more digits and an exponent. -/
theorem exists_fractionRead (h : fraction negative n start count bs = .ok (x, rest)) :
    ∃ ds exponent, bs = ds ++ (exponent ++ rest) ∧ (∀ d ∈ ds, isDigit d = true) ∧
      (count = 0 → ds ≠ []) ∧ ExponentForm exponent ∧ IsReal x := by
  induction bs generalizing n count with
  | nil =>
    rw [fraction] at h
    split at h
    · cases h
    · next hcount =>
      obtain ⟨rfl, hx⟩ := real_eq_ok h
      exact ⟨[], [], rfl, List.forall_mem_nil _, fun hzero => absurd hzero hcount, .absent, hx⟩
  | cons b bs ih =>
    rw [fraction] at h
    split at h
    · next hb =>
      simp only at h
      split at h
      · obtain ⟨ds, exponent, rfl, hds, -, hexponent, hx⟩ := ih h
        exact ⟨b :: ds, exponent, rfl, List.forall_mem_cons.mpr ⟨hb, hds⟩,
          fun _ => List.cons_ne_nil b ds, hexponent, hx⟩
      · obtain ⟨exponent, hskip, hexponent, hx⟩ := exists_exponentForm_of_maybe h
        obtain ⟨ds, hbs, hds⟩ := exists_digits bs
        exact ⟨b :: ds, exponent, by rw [List.cons_append, ← hskip, ← hbs],
          List.forall_mem_cons.mpr ⟨hb, hds⟩, fun _ => List.cons_ne_nil b ds, hexponent, hx⟩
    · split at h
      · cases h
      · next hcount =>
        obtain ⟨exponent, hbs, hexponent, hx⟩ := exists_exponentForm_of_maybe h
        exact ⟨[], exponent, hbs, List.forall_mem_nil _, fun hzero => absurd hzero hcount,
          hexponent, hx⟩

/-- Behind a point there are the digits of a fraction and an exponent. -/
theorem exists_tailForm_of_fraction (h : fraction negative n start 0 bs = .ok (x, rest)) :
    ∃ tail, point :: bs = tail ++ rest ∧ TailForm tail ∧ IsReal x := by
  obtain ⟨ds, exponent, rfl, hds, hne, hexponent, hx⟩ := exists_fractionRead h
  exact ⟨point :: ds ++ exponent, by simp, .parts (.present ⟨hne rfl, hds⟩) hexponent, hx⟩

/-- Behind an integer too long for 64 bits there are more digits, a fraction and an exponent. -/
theorem exists_longInteger (h : longInteger negative n count bs = .ok (x, rest)) :
    ∃ ds tail, bs = ds ++ (tail ++ rest) ∧ (∀ d ∈ ds, isDigit d = true) ∧ TailForm tail ∧
      IsReal x := by
  induction bs generalizing count with
  | nil =>
    obtain ⟨rfl, hx⟩ := real_eq_ok h
    exact ⟨[], [], rfl, List.forall_mem_nil _, .nil, hx⟩
  | cons b bs ih =>
    rw [longInteger] at h
    split at h
    · next hb =>
      obtain ⟨ds, tail, rfl, hds, htail, hx⟩ := ih h
      exact ⟨b :: ds, tail, rfl, List.forall_mem_cons.mpr ⟨hb, hds⟩, htail, hx⟩
    · split at h
      · next hpoint =>
        obtain ⟨tail, hbs, htail, hx⟩ := exists_tailForm_of_fraction h
        exact ⟨[], tail, by rw [hpoint, hbs]; rfl, List.forall_mem_nil _, htail, hx⟩
      · obtain ⟨exponent, hbs, hexponent, hx⟩ := exists_exponentForm_of_maybe h
        exact ⟨[], exponent, hbs, List.forall_mem_nil _, .parts .absent hexponent, hx⟩

/-! ## Integers -/

/-- A number is no integer, or nothing follows its digits before the point. -/
def IntegerOnly (negative : Bool) (n : Nat) (tail rest : List UInt8) (x : Number) : Prop :=
  IsReal x ∨ tail = [] ∧ signed negative n rest = .ok (x, rest)

/-- Nothing is read behind an integer. -/
theorem integerOnly_of_signed (h : signed negative n bs = .ok (x, rest)) :
    rest = bs ∧ IntegerOnly negative n [] rest x := by
  have hrest : rest = bs := by
    have hsigned := h
    unfold signed at hsigned
    split at hsigned
    · cases hsigned
      rfl
    · split at hsigned
      · cases hsigned
        rfl
      · exact (real_eq_ok hsigned).1
  exact ⟨hrest, .inr ⟨rfl, by rw [hrest] at h ⊢; exact h⟩⟩

/-- What is read behind the digits before the point is a fraction and an exponent. -/
theorem exists_tailForm_of_afterInteger (h : afterInteger negative n bs = .ok (x, rest)) :
    ∃ tail, bs = tail ++ rest ∧ TailForm tail ∧ IntegerOnly negative n tail rest x := by
  unfold afterInteger at h
  split at h
  · obtain ⟨tail, hbs, htail, hx⟩ := exists_tailForm_of_fraction h
    exact ⟨tail, hbs, htail, .inl hx⟩
  · split at h
    · next hstart =>
      obtain ⟨exponent, hbs, hexponent, hx⟩ := exists_exponentForm_of_mark hstart h
      exact ⟨exponent, hbs, .parts .absent hexponent, .inl hx⟩
    · obtain ⟨rfl, honly⟩ := integerOnly_of_signed h
      exact ⟨[], rfl, .nil, honly⟩

/-- What is read behind the first digit of an integer are digits, a fraction and an exponent. -/
theorem exists_integerDigits (h : integerDigits negative n bs = .ok (x, rest)) :
    ∃ ds tail, bs = ds ++ (tail ++ rest) ∧ (∀ d ∈ ds, isDigit d = true) ∧ TailForm tail ∧
      IntegerOnly negative (digitsFrom n ds) tail rest x := by
  induction bs generalizing n with
  | nil =>
    obtain ⟨rfl, honly⟩ := integerOnly_of_signed h
    exact ⟨[], [], rfl, List.forall_mem_nil _, .nil, honly⟩
  | cons b bs ih =>
    rw [integerDigits] at h
    split at h
    · next hb =>
      simp only at h
      split at h
      · obtain ⟨ds, tail, rfl, hds, htail, honly⟩ := ih h
        exact ⟨b :: ds, tail, rfl, List.forall_mem_cons.mpr ⟨hb, hds⟩, htail, honly⟩
      · obtain ⟨ds, tail, rfl, hds, htail, hx⟩ := exists_longInteger h
        exact ⟨b :: ds, tail, rfl, List.forall_mem_cons.mpr ⟨hb, hds⟩, htail, .inl hx⟩
    · obtain ⟨tail, hbs, htail, honly⟩ := exists_tailForm_of_afterInteger h
      exact ⟨[], tail, hbs, List.forall_mem_nil _, htail, honly⟩

/-- What is read as a number behind its sign are its digits before the point, a fraction and an
exponent. -/
theorem exists_unsigned (h : unsigned negative bs = .ok (x, rest)) :
    ∃ whole tail, bs = whole ++ (tail ++ rest) ∧ WholeDigits whole ∧ TailForm tail ∧
      IntegerOnly negative (digitsFrom 0 whole) tail rest x := by
  cases bs with
  | nil => cases h
  | cons b bs =>
    rw [unsigned.eq_def] at h
    simp only at h
    split at h
    · next hzero =>
      subst hzero
      split at h
      · obtain ⟨rfl, honly⟩ := integerOnly_of_signed h
        exact ⟨[zero], [], rfl, .single_zero, .nil, honly⟩
      · split at h
        · cases h
        · obtain ⟨tail, hbs, htail, honly⟩ := exists_tailForm_of_afterInteger h
          exact ⟨[zero], tail, by rw [hbs]; rfl, .single_zero, htail, honly⟩
    · next hzero =>
      split at h
      · next hb =>
        obtain ⟨ds, tail, rfl, hds, htail, honly⟩ := exists_integerDigits h
        refine ⟨b :: ds, tail, rfl, .of_ne_zero hb hzero hds, htail, ?_⟩
        have hvalue : digitsFrom 0 (b :: ds) = digitsFrom (digitValue b) ds := by
          rw [digitsFrom, List.foldl_cons, Nat.mul_zero, Nat.zero_add, digitsFrom]
        rw [hvalue]
        exact honly
      · cases h

/-- A signed number is an integer only if it is written as one. -/
theorem eq_of_signed_integer {m : Int} (h : signed negative n bs = .ok (.integer m, rest)) :
    m = if negative then -(n : Int) else n := by
  unfold signed at h
  split at h
  · next hnegative =>
    cases h
    rw [if_neg (by simpa using hnegative)]
  · next hnegative =>
    have hnegative : negative = true := by simpa using hnegative
    split at h
    · cases h
      rw [if_pos hnegative]
    · obtain ⟨-, y, hy⟩ := real_eq_ok h
      cases hy

/-- A negative number that is an integer is not zero. -/
theorem pos_of_signed_integer {m : Int} (h : signed true n bs = .ok (.integer m, rest)) :
    0 < n := by
  unfold signed at h
  rw [if_neg (by decide)] at h
  split at h
  · next hn => exact hn.1
  · obtain ⟨-, y, hy⟩ := real_eq_ok h
    cases hy

/-- What is read as a number behind no sign has the form of one. -/
theorem exists_numberText (h : unsigned false bs = .ok (x, rest)) :
    ∃ text, bs = text ++ rest ∧ NumberText text x := by
  obtain ⟨whole, tail, rfl, hwhole, htail, honly⟩ := exists_unsigned h
  refine ⟨whole ++ tail, (List.append_assoc _ _ _).symm, .positive (.parts hwhole htail), ?_⟩
  rintro m rfl
  rcases honly with ⟨y, hy⟩ | ⟨rfl, hsigned⟩
  · cases hy
  · rw [eq_of_signed_integer hsigned, List.append_nil]
    exact .positive hwhole

/-- What is read as a number behind a minus has the form of one. -/
theorem exists_numberText_minus (h : unsigned true bs = .ok (x, rest)) :
    ∃ text, minus :: bs = text ++ rest ∧ NumberText text x := by
  obtain ⟨whole, tail, rfl, hwhole, htail, honly⟩ := exists_unsigned h
  refine ⟨minus :: (whole ++ tail), by simp, .negative (.parts hwhole htail), ?_⟩
  rintro m rfl
  rcases honly with ⟨y, hy⟩ | ⟨rfl, hsigned⟩
  · cases hy
  · rw [eq_of_signed_integer hsigned, List.append_nil]
    refine .negative hwhole ?_
    rintro rfl
    exact absurd (pos_of_signed_integer hsigned) (by decide)

/-! ## Integers that are written -/

/-- Nothing that may come after a value goes on with a number. -/
theorem afterInteger_of_endsValue (hrest : EndsValue rest) (negative : Bool) (n : Nat) :
    afterInteger negative n rest = signed negative n rest := by
  cases rest with
  | nil => rfl
  | cons b rest =>
    obtain ⟨-, hpoint, hsmall, hcapital⟩ := hrest.head
    unfold afterInteger
    split
    · next heq => exact absurd (List.cons.inj heq).1 hpoint
    · rw [if_neg (by simp [startsExponent, hsmall, hcapital])]

/-- More digits do not lower the value. -/
theorem le_digitsFrom (ds : List UInt8) (n : Nat) : n ≤ digitsFrom n ds := by
  induction ds generalizing n with
  | nil => exact Nat.le_refl n
  | cons d ds ih =>
    have hrest := ih (10 * n + digitValue d)
    rw [digitsFrom, List.foldl_cons, ← digitsFrom]
    omega

/-- Digits are read as their value, if that has 64 bits. -/
theorem integerDigits_append (negative : Bool) (hds : ∀ d ∈ ds, isDigit d = true)
    (hbound : digitsFrom n ds < significandBound) (hrest : EndsValue rest) :
    integerDigits negative n (ds ++ rest) = signed negative (digitsFrom n ds) rest := by
  induction ds generalizing n with
  | nil =>
    cases rest with
    | nil => rfl
    | cons b rest =>
      rw [List.nil_append, integerDigits, if_neg (by simp [hrest.head.1])]
      exact afterInteger_of_endsValue hrest negative n
  | cons d ds ih =>
    obtain ⟨hd, hds⟩ := List.forall_mem_cons.mp hds
    have hcons : digitsFrom n (d :: ds) = digitsFrom (10 * n + digitValue d) ds := rfl
    rw [hcons] at hbound ⊢
    -- the value only grows, so every number on the way has 64 bits too
    have hnext : 10 * n + digitValue d < significandBound :=
      Nat.lt_of_le_of_lt (le_digitsFrom ds _) hbound
    rw [List.cons_append, integerDigits, if_pos hd]
    simp only [if_pos hnext]
    exact ih hds hbound

/-- A written number of 64 bits is read back. -/
theorem unsigned_append (negative : Bool) (hds : WholeDigits ds)
    (hbound : digitsFrom 0 ds < significandBound) (hrest : EndsValue rest) :
    unsigned negative (ds ++ rest) = signed negative (digitsFrom 0 ds) rest := by
  cases ds with
  | nil => exact absurd rfl hds.nonempty
  | cons b ds =>
    obtain ⟨hb, hdigits⟩ := List.forall_mem_cons.mp hds.digits
    rw [List.cons_append, unsigned.eq_def]
    simp only
    by_cases hzero : b = zero
    · obtain ⟨-, rfl⟩ := List.cons.inj (hds.zero (by rw [hzero]; rfl))
      subst hzero
      rw [if_pos rfl, List.nil_append]
      cases rest with
      | nil => rfl
      | cons c rest =>
        simp only [hrest.head.1, Bool.false_eq_true, if_false]
        exact afterInteger_of_endsValue hrest negative 0
    · have hvalue : digitsFrom 0 (b :: ds) = digitsFrom (digitValue b) ds := by
        rw [digitsFrom, List.foldl_cons, Nat.mul_zero, Nat.zero_add, digitsFrom]
      rw [if_neg hzero, if_pos hb, hvalue]
      rw [hvalue] at hbound
      exact integerDigits_append negative hdigits hbound hrest

/-- The value of a number other than zero is above zero. -/
theorem digitsFrom_pos (hds : WholeDigits ds) (hzero : ds ≠ [zero]) : 0 < digitsFrom 0 ds := by
  cases ds with
  | nil => exact absurd rfl hds.nonempty
  | cons b ds =>
    have hb : isDigit b = true := hds.digits b List.mem_cons_self
    have hfirst : b ≠ zero := fun heq => hzero (hds.zero (by rw [heq]; rfl))
    have hvalue : 0 < digitValue b := by
      simp only [isDigit, Bool.and_eq_true, decide_eq_true_eq, UInt8.le_iff_toNat_le] at hb
      have hne : b.toNat ≠ zero.toNat := fun heq => hfirst (UInt8.toNat_inj.mp heq)
      have hzeroNat : zero.toNat = 48 := rfl
      have hlow : (0x30 : UInt8).toNat = 48 := rfl
      rw [digitValue]
      omega
    have hle := le_digitsFrom ds (10 * 0 + digitValue b)
    have hcons : digitsFrom 0 (b :: ds) = digitsFrom (10 * 0 + digitValue b) ds := rfl
    omega

end Numeral

end IdentityGateway.Json
