import IdentityGateway.Json.Printer
import IdentityGateway.Proofs.Json.NumeralReading
import IdentityGateway.Proofs.Text.Decimal

/-!
# Integers written and read

A written integer is a text of the integer, and such a text is read as the integer if it has 64
bits.
-/

namespace IdentityGateway.Json

open Byte

/-! ## Digits as bytes -/

/-- In UTF-8 a digit keeps its code. -/
theorem toNat_byte_of_isDigit {d : Char} (hd : d.isDigit = true) :
    (UInt8.ofNat d.toNat).toNat = d.toNat :=
  UInt8.toNat_ofNat_of_lt' (Nat.lt_of_le_of_lt (Text.toNat_of_isDigit hd).2 (by decide))

/-- Digits are recognised by their bytes. -/
theorem isDigit_byte_of_isDigit {d : Char} (hd : d.isDigit = true) :
    isDigit (UInt8.ofNat d.toNat) = true := by
  rw [isDigit, Bool.and_eq_true, decide_eq_true_eq, decide_eq_true_eq, UInt8.le_iff_toNat_le,
    UInt8.le_iff_toNat_le, toNat_byte_of_isDigit hd]
  exact Text.toNat_of_isDigit hd

private theorem digitValue_byte_of_isDigit {d : Char} (hd : d.isDigit = true) :
    digitValue (UInt8.ofNat d.toNat) = d.toNat - 48 := by
  rw [digitValue, toNat_byte_of_isDigit hd]

/-- The bytes of digits have the value of the digits. -/
theorem digitsFrom_utf8 {ds : List Char} (hds : ∀ d ∈ ds, d.isDigit = true) (n : Nat) :
    digitsFrom n (Text.utf8 ds) = Nat.ofDigitChars 10 ds n := by
  induction ds generalizing n with
  | nil => rfl
  | cons d ds ih =>
    obtain ⟨hd, hds⟩ := List.forall_mem_cons.mp hds
    rw [Text.utf8_cons_of_isDigit hd, digitsFrom, List.foldl_cons, ← digitsFrom,
      digitValue_byte_of_isDigit hd, Nat.ofDigitChars_cons]
    exact ih hds _

private theorem isDigit_of_mem_utf8 {ds : List Char} (hds : ∀ d ∈ ds, d.isDigit = true) :
    ∀ b ∈ Text.utf8 ds, isDigit b = true := by
  induction ds with
  | nil => exact List.forall_mem_nil _
  | cons d ds ih =>
    obtain ⟨hd, hds⟩ := List.forall_mem_cons.mp hds
    rw [Text.utf8_cons_of_isDigit hd]
    exact List.forall_mem_cons.mpr ⟨isDigit_byte_of_isDigit hd, ih hds⟩

/-- A written number above zero has its digits before the point, and does not start with zero. -/
theorem wholeDigits_natDigits_of_pos {n : Nat} (hn : 0 < n) :
    WholeDigits (Text.utf8 (Text.natDigits n)) := by
  cases hds : Text.natDigits n with
  | nil => exact absurd hds Nat.toDigits_ne_nil
  | cons d ds =>
    have hdigits : ∀ c ∈ d :: ds, c.isDigit = true := fun c hc =>
      Text.isDigit_of_mem_natDigits (hds ▸ hc)
    obtain ⟨hd, hothers⟩ := List.forall_mem_cons.mp hdigits
    rw [Text.utf8_cons_of_isDigit hd]
    refine .of_ne_zero (isDigit_byte_of_isDigit hd) ?_ (isDigit_of_mem_utf8 hothers)
    intro hzero
    have hnumber : d.toNat = 48 := by
      rw [← toNat_byte_of_isDigit hd, hzero]
      rfl
    have hhead := Text.head?_natDigits_ne hn
    rw [hds, List.head?_cons, ← Char.ofNat_toNat d, hnumber] at hhead
    exact hhead rfl

/-- A written number has its digits before the point. -/
theorem wholeDigits_natDigits (n : Nat) : WholeDigits (Text.utf8 (Text.natDigits n)) := by
  rcases Nat.eq_zero_or_pos n with rfl | hpos
  · exact .single_zero
  · exact wholeDigits_natDigits_of_pos hpos

/-- A written number has the value of the number. -/
theorem digitsFrom_natDigits (n : Nat) : digitsFrom 0 (Text.utf8 (Text.natDigits n)) = n := by
  rw [digitsFrom_utf8 fun d hd => Text.isDigit_of_mem_natDigits hd, Text.ofDigitChars_natDigits]

/-! ## Integers -/

/-- An integer of 64 bits, with a sign or without. -/
def IsWord (n : Int) : Prop := -(Numeral.negativeBound : Int) ≤ n ∧ n < Numeral.significandBound

/-- A number without a sign is written in its digits. -/
theorem toList_text_ofNat (n : Nat) :
    (Number.integer (n : Int)).text.toList = Text.natDigits n := by
  change (Nat.repr n).toList = _
  rw [Nat.toList_repr, Text.natDigits]

/-- A number below zero is written with a sign. -/
theorem toList_text_negSucc (n : Nat) :
    (Number.integer (Int.negSucc n)).text.toList = '-' :: Text.natDigits (n + 1) := by
  change ("-" ++ Nat.repr (n + 1)).toList = _
  rw [String.toList_append, Nat.toList_repr, Text.natDigits]
  rfl

/-- The integers that the writer puts out are numerals of the grammar. -/
theorem integerText_text (n : Int) : IntegerText (Text.utf8 (Number.integer n).text.toList) n := by
  cases n with
  | ofNat n =>
    have htext := IntegerText.positive (wholeDigits_natDigits n)
    rwa [digitsFrom_natDigits, ← toList_text_ofNat] at htext
  | negSucc n =>
    have hzero : Text.utf8 (Text.natDigits (n + 1)) ≠ [zero] := by
      intro heq
      have hvalue := digitsFrom_natDigits (n + 1)
      rw [heq] at hvalue
      cases hvalue
    have htext := IntegerText.negative (wholeDigits_natDigits (n + 1)) hzero
    rw [digitsFrom_natDigits] at htext
    rw [toList_text_negSucc]
    exact htext

/-- A scalar that starts with a digit is a number. -/
theorem scalar_of_isDigit {b : UInt8} (hb : isDigit b = true) (bs : List UInt8) :
    scalar b bs = (Numeral.unsigned false (b :: bs)).map fun (n, rest) => (.number n, rest) := by
  rw [scalar, if_neg (ne_of_isDigit hb rfl), if_neg (ne_of_isDigit hb rfl),
    if_neg (ne_of_isDigit hb rfl), if_neg (ne_of_isDigit hb rfl), if_pos hb]

/-- A text of an integer of 64 bits starts with a sign or a digit, and is read as the integer. -/
theorem IntegerText.scalar {text rest : List UInt8} {n : Int} (h : IntegerText text n)
    (hn : IsWord n) (hrest : EndsValue rest) :
    ∃ b bs, text ++ rest = b :: bs ∧ (b = minus ∨ isDigit b = true) ∧
      Json.scalar b bs = .ok (.number (.integer n), rest) := by
  cases h with
  | @positive ds hds =>
    have hbound : digitsFrom 0 text < Numeral.significandBound := Int.ofNat_lt.mp hn.2
    have hread := Numeral.unsigned_append false hds hbound hrest
    obtain ⟨b, bs, rfl⟩ := List.exists_cons_of_ne_nil hds.nonempty
    have hb : isDigit b = true := hds.digits b List.mem_cons_self
    refine ⟨b, bs ++ rest, rfl, .inr hb, ?_⟩
    rw [List.cons_append] at hread
    rw [scalar_of_isDigit hb, hread]
    rfl
  | @negative ds hds hzero =>
    have hbound : digitsFrom 0 ds ≤ Numeral.negativeBound := by
      have hlow := hn.1
      omega
    have hwide : digitsFrom 0 ds < Numeral.significandBound := Nat.lt_of_le_of_lt hbound (by decide)
    have hread := Numeral.unsigned_append true hds hwide hrest
    rw [Numeral.signed, if_neg (by decide),
      if_pos ⟨Numeral.digitsFrom_pos hds hzero, hbound⟩] at hread
    refine ⟨minus, ds ++ rest, rfl, .inl rfl, ?_⟩
    rw [Json.scalar, if_neg (by decide), if_neg (by decide), if_neg (by decide), if_pos rfl, hread]
    rfl

end IdentityGateway.Json
