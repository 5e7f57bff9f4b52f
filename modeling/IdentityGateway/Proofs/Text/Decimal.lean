import IdentityGateway.Proofs.Text.Utf8
import IdentityGateway.Text.Blank
import IdentityGateway.Text.Decimal

/-!
# Written numerals

A number is written in decimal digits, of which the first is not zero unless the number is, and
the digits have the number as their value. Zeros before it do not change the value.
-/

namespace IdentityGateway.Text

/-- The characters that count as digits. -/
theorem toNat_of_isDigit {c : Char} (hc : c.isDigit = true) : 48 ≤ c.toNat ∧ c.toNat ≤ 57 := by
  simp only [Char.isDigit, Bool.and_eq_true, decide_eq_true_eq, ge_iff_le] at hc
  exact ⟨hc.1, hc.2⟩

/-- A digit is read as its value. -/
theorem digit?_of_isDigit {c : Char} (hc : c.isDigit = true) : digit? c = some (c.toNat - 48) := by
  obtain ⟨hlow, hhigh⟩ := toNat_of_isDigit hc
  exact if_pos ⟨hlow, hhigh⟩

/-- In UTF-8 a digit takes one byte. -/
theorem utf8_cons_of_isDigit {d : Char} (hd : d.isDigit = true) (ds : List Char) :
    utf8 (d :: ds) = UInt8.ofNat d.toNat :: utf8 ds := by
  have hascii : d.toNat < 0x80 := Nat.lt_of_le_of_lt (toNat_of_isDigit hd).2 (by decide)
  rw [utf8_cons, utf8EncodeChar_of_ascii hascii, List.singleton_append]

/-- Digits are never trimmed away. -/
theorem isBlank_of_isDigit {c : Char} (hc : c.isDigit = true) : isBlank c = false := by
  have hcode := toNat_of_isDigit hc
  simp only [isBlank, isBlankCode, Bool.or_eq_false_iff, Bool.and_eq_false_iff,
    decide_eq_false_iff_not, beq_eq_false_iff_ne]
  omega

/-- More digits do not lower the value. -/
theorem le_ofDigitChars (ds : List Char) (n : Nat) : n ≤ Nat.ofDigitChars 10 ds n := by
  induction ds generalizing n with
  | nil => exact Nat.le_refl n
  | cons d ds ih =>
    rw [Nat.ofDigitChars_cons]
    have hrest := ih (10 * n + (d.toNat - '0'.toNat))
    omega

/-- Digits add as many places to a value as there are of them. -/
theorem ofDigitChars_lt {ds : List Char} (hds : ∀ d ∈ ds, d.isDigit = true) (n : Nat) :
    Nat.ofDigitChars 10 ds n < (n + 1) * Nat.pow 10 ds.length := by
  induction ds generalizing n with
  | nil => simp
  | cons d ds ih =>
    obtain ⟨hd, hds⟩ := List.forall_mem_cons.mp hds
    have hdigit : d.toNat - 48 ≤ 9 := by
      have hrange := toNat_of_isDigit hd
      omega
    calc Nat.ofDigitChars 10 (d :: ds) n
        = Nat.ofDigitChars 10 ds (10 * n + (d.toNat - 48)) := Nat.ofDigitChars_cons ..
      _ < (10 * n + (d.toNat - 48) + 1) * Nat.pow 10 ds.length := ih hds _
      _ ≤ ((n + 1) * 10) * Nat.pow 10 ds.length := Nat.mul_le_mul_right _ (by omega)
      _ = (n + 1) * Nat.pow 10 (d :: ds).length := by
        rw [List.length_cons, Nat.pow_eq, Nat.pow_eq, Nat.pow_succ', Nat.mul_assoc]

/-! ## Numerals that are read -/

/-- A text is a numeral of a number: decimal digits that have it as their value, at least one, with
a plus sign before them or without. -/
def IsNumeral (s : String) (n : Nat) : Prop :=
  ∃ ds : List Char, (s.toList = ds ∨ s.toList = '+' :: ds) ∧ ds ≠ [] ∧
    (∀ d ∈ ds, d.isDigit = true) ∧ Nat.ofDigitChars 10 ds 0 = n

private theorem digit?_eq_some_iff {c : Char} {d : Nat} :
    digit? c = some d ↔ c.isDigit = true ∧ c.toNat - 48 = d := by
  have hdigit : ('0' ≤ c ∧ c ≤ '9') ↔ c.isDigit = true := by
    rw [Char.isDigit, Bool.and_eq_true, decide_eq_true_eq, decide_eq_true_eq]
    rfl
  rw [digit?, ← hdigit]
  split
  · next hrange => simp [hrange]
  · next hrange => simp [hrange]

/-- A run that has a value is one of digits, which have the value. -/
theorem digits?_eq_some_iff {value n : Nat} {cs : List Char} :
    digits? value cs = some n ↔
      (∀ c ∈ cs, c.isDigit = true) ∧ Nat.ofDigitChars 10 cs value = n := by
  induction cs generalizing value with
  | nil => simp [digits?]
  | cons c cs ih =>
    simp only [digits?, Option.bind_eq_some_iff, digit?_eq_some_iff, ih, List.forall_mem_cons,
      Nat.ofDigitChars_cons]
    constructor
    · rintro ⟨d, ⟨hc, rfl⟩, hcs, hvalue⟩
      exact ⟨⟨hc, hcs⟩, hvalue⟩
    · rintro ⟨⟨hc, hcs⟩, hvalue⟩
      exact ⟨_, ⟨hc, rfl⟩, hcs, hvalue⟩

/-- The texts that are read as a number below a bound are its numerals. -/
theorem natBelow?_eq_some_iff {bound n : Nat} {s : String} :
    natBelow? bound s = some n ↔ IsNumeral s n ∧ n < bound := by
  have hread : ∀ cs : List Char,
      (if cs.isEmpty then none else (digits? 0 cs).filter (· < bound)) = some n ↔
        (cs ≠ [] ∧ (∀ d ∈ cs, d.isDigit = true) ∧ Nat.ofDigitChars 10 cs 0 = n) ∧ n < bound := by
    intro cs
    cases cs with
    | nil => simp
    | cons c cs => simp [Option.filter_eq_some_iff, digits?_eq_some_iff]
  rw [natBelow?, hread, IsNumeral]
  refine and_congr_left fun _ => ?_
  split
  · next cs hplus =>
    constructor
    · exact fun h => ⟨cs, .inr hplus, h⟩
    · rintro ⟨ds, hs | hs, hne, hdigits, hvalue⟩
      · -- a plus sign is no digit
        have hmem : '+' ∈ ds := by rw [← hs, hplus]; exact List.mem_cons_self
        cases hdigits _ hmem
      · obtain ⟨-, rfl⟩ := List.cons.inj (hplus.symm.trans hs)
        exact ⟨hne, hdigits, hvalue⟩
  · next cs hplain =>
    constructor
    · exact fun h => ⟨s.toList, .inl rfl, h⟩
    · rintro ⟨ds, rfl | hs, hne, hdigits, hvalue⟩
      · exact ⟨hne, hdigits, hvalue⟩
      · exact absurd hs (hplain ds)

/-! ## Plain numerals -/

/-- A number is written in digits. -/
theorem isDigit_of_mem_natDigits {n : Nat} {c : Char} (hc : c ∈ natDigits n) : c.isDigit = true :=
  Nat.isDigit_of_mem_toDigits (by decide) (by decide) hc

/-- The digits of a number have its value. -/
theorem ofDigitChars_natDigits (n : Nat) : Nat.ofDigitChars 10 (natDigits n) 0 = n :=
  Nat.ofDigitChars_ten_toDigits

/-- A number above zero does not start with a zero. -/
theorem head?_natDigits_ne {n : Nat} (hn : 0 < n) : (natDigits n).head? ≠ some '0' := by
  induction n using Nat.strongRecOn with
  | _ n ih =>
    rw [natDigits, Nat.toDigits_eq_if (by decide)]
    split
    · rename_i hsmall
      intro hhead
      have hzero : n.digitChar = '0' := by simpa using hhead
      have hvalue := Nat.toNat_digitChar_sub_48_of_lt_ten hsmall
      rw [hzero] at hvalue
      exact absurd hvalue (Nat.ne_of_lt hn)
    · -- the first digit is that of the tenth part
      have hfirst := ih (n / 10) (by omega) (by omega)
      rw [List.head?_append]
      cases hdigits : Nat.toDigits 10 (n / 10) with
      | nil => exact absurd hdigits Nat.toDigits_ne_nil
      | cons d ds => rwa [natDigits, hdigits] at hfirst

/-! ## Numerals of some width -/

/-- A number of some width is written in digits. -/
theorem isDigit_of_mem_padded {width n : Nat} {c : Char} (hc : c ∈ padded width n) :
    c.isDigit = true := by
  rcases List.mem_append.mp hc with hzero | hdigit
  · rw [List.eq_of_mem_replicate hzero]
    rfl
  · exact isDigit_of_mem_natDigits hdigit

/-- The digits of a number of some width have its value. -/
theorem ofDigitChars_padded (width n : Nat) : Nat.ofDigitChars 10 (padded width n) 0 = n := by
  simp only [padded, Nat.ofDigitChars_append, Nat.ofDigitChars_replicate_zero, Nat.mul_zero,
    ofDigitChars_natDigits]

/-- A number that fits its width is written in that many digits. -/
theorem length_padded {width n : Nat} (hwidth : 0 < width) (hn : n < Nat.pow 10 width) :
    (padded width n).length = width := by
  have hle : (natDigits n).length ≤ width := (Nat.length_toDigits_le_iff (by decide) hwidth).mpr hn
  simp only [padded, List.length_append, List.length_replicate]
  omega

/-- A number of some width has a digit. -/
theorem padded_ne_nil (width n : Nat) : padded width n ≠ [] := by
  intro hnil
  exact Nat.toDigits_ne_nil (List.append_eq_nil_iff.mp hnil).2

end IdentityGateway.Text
