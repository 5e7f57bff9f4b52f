import Mathlib.Data.List.TakeWhile
import IdentityGateway.Json.Numeral

/-!
# The form of numerals

A numeral has digits before the point, and it may have a fraction and an exponent. Whatever is read
as a number, or is read past as one, has this form. A numeral without fraction and exponent is an
integer, and is read as such if it has 64 bits.
-/

namespace IdentityGateway.Json

open Byte

/-! ## Forms -/

/-- A run of digits, as it stands behind a point or in an exponent. -/
structure Digits (ds : List UInt8) : Prop where
  nonempty : ds ≠ []
  digits : ∀ d ∈ ds, isDigit d = true

/-- The digits before the point. A zero does not stand before others. -/
structure WholeDigits (ds : List UInt8) : Prop extends Digits ds where
  zero : ds.head? = some zero → ds = [zero]

/-- The point and the digits behind it, if there are any. -/
inductive FractionForm : List UInt8 → Prop
  | absent : FractionForm []
  | present {ds : List UInt8} (hds : Digits ds) : FractionForm (point :: ds)

/-- The sign that the grammar allows before the digits of an exponent. -/
inductive SignForm : List UInt8 → Prop
  | absent : SignForm []
  | plus : SignForm [plus]
  | minus : SignForm [minus]

/-- The part of a numeral that may follow its fraction. -/
inductive ExponentForm : List UInt8 → Prop
  | absent : ExponentForm []
  | present {mark : UInt8} {sign ds : List UInt8} (hmark : mark = smallE ∨ mark = capitalE)
      (hsign : SignForm sign) (hds : Digits ds) : ExponentForm (mark :: (sign ++ ds))

/-- What follows the digits before the point. -/
inductive TailForm : List UInt8 → Prop
  | parts {fraction exponent : List UInt8} (hfraction : FractionForm fraction)
      (hexponent : ExponentForm exponent) : TailForm (fraction ++ exponent)

/-- A numeral without its sign. -/
inductive Magnitude : List UInt8 → Prop
  | parts {whole tail : List UInt8} (hwhole : WholeDigits whole) (htail : TailForm tail) :
      Magnitude (whole ++ tail)

/-- The numerals of the grammar. Only a minus may stand before them. -/
inductive NumeralForm : List UInt8 → Prop
  | positive {text : List UInt8} (h : Magnitude text) : NumeralForm text
  | negative {text : List UInt8} (h : Magnitude text) : NumeralForm (minus :: text)

/-- The value of digits that come after those of a number. -/
def digitsFrom (n : Nat) (ds : List UInt8) : Nat :=
  ds.foldl (fun n d => 10 * n + digitValue d) n

/-- An integer as it is written. Zero has no sign. -/
inductive IntegerText : List UInt8 → Int → Prop
  | positive {ds : List UInt8} (hds : WholeDigits ds) : IntegerText ds (digitsFrom 0 ds)
  | negative {ds : List UInt8} (hds : WholeDigits ds) (hzero : ds ≠ [zero]) :
      IntegerText (minus :: ds) (-(digitsFrom 0 ds : Int))

/-- The bytes that may come after a value: blanks, and the marks of the container around it. -/
def enders : List UInt8 := [0x20, 0x0A, 0x09, 0x0D, comma, closeList, closeObject]

/-- A value may end before some bytes. -/
def EndsValue (rest : List UInt8) : Prop :=
  ∀ b ∈ rest.head?, b ∈ enders

/-- The next byte is no digit. -/
def NoDigit (bs : List UInt8) : Prop :=
  ∀ b ∈ bs.head?, isDigit b = false

section

variable {bs rest ds tail text : List UInt8} {b : UInt8}

/-! ## Digits -/

/-- The digits of a number end where no digit comes next. -/
theorem skipDigits_append (hds : ∀ d ∈ ds, isDigit d = true) (hrest : NoDigit rest) :
    Numeral.skipDigits (ds ++ rest) = rest := by
  rw [Numeral.skipDigits, List.dropWhile_append_of_pos hds]
  cases rest with
  | nil => rfl
  | cons b rest => rw [List.dropWhile_cons_of_neg (by simp [hrest b rfl])]

/-- What is skipped before some bytes are digits. -/
theorem exists_digits (bs : List UInt8) :
    ∃ ds, bs = ds ++ Numeral.skipDigits bs ∧ ∀ d ∈ ds, isDigit d = true :=
  ⟨bs.takeWhile isDigit, List.takeWhile_append_dropWhile.symm,
    fun _ hd => List.mem_takeWhile_imp hd⟩

/-- A run of digits may be extended at its front. -/
theorem Digits.cons (hb : isDigit b = true) (hds : ∀ d ∈ ds, isDigit d = true) :
    Digits (b :: ds) :=
  ⟨List.cons_ne_nil b ds, List.forall_mem_cons.mpr ⟨hb, hds⟩⟩

/-- A digit is no byte that does not count as one. -/
theorem ne_of_isDigit {c : UInt8} (hb : isDigit b = true) (hc : isDigit c = false) : b ≠ c := by
  rintro rfl
  exact absurd hb (Bool.eq_false_iff.mp hc)

/-- A number that does not start with zero has its digits before the point. -/
theorem WholeDigits.of_ne_zero (hb : isDigit b = true) (hzero : b ≠ Byte.zero)
    (hds : ∀ d ∈ ds, isDigit d = true) : WholeDigits (b :: ds) where
  toDigits := .cons hb hds
  zero h := absurd (Option.some.inj h) hzero

/-- Before a point zero stands alone. -/
theorem WholeDigits.single_zero : WholeDigits [Byte.zero] where
  toDigits := .cons rfl (List.forall_mem_nil _)
  zero _ := rfl

/-! ## What comes after a numeral -/

/-- What may come after a value is no part of a number. -/
theorem EndsValue.head (h : EndsValue (b :: rest)) :
    isDigit b = false ∧ b ≠ point ∧ b ≠ smallE ∧ b ≠ capitalE := by
  have hb : b ∈ enders := h b rfl
  simp only [enders, List.mem_cons, List.not_mem_nil, or_false] at hb
  rcases hb with rfl | rfl | rfl | rfl | rfl | rfl | rfl <;> decide

/-- What may come after a value is no digit. -/
theorem EndsValue.noDigit (h : EndsValue rest) : NoDigit rest := by
  rintro b hb
  cases rest with
  | nil => cases hb
  | cons c rest =>
    cases hb
    exact h.head.1

/-- An exponent starts with its mark. -/
theorem ExponentForm.noDigit (h : ExponentForm tail) (hrest : EndsValue rest) :
    NoDigit (tail ++ rest) := by
  cases h with
  | absent => exact hrest.noDigit
  | present hmark _ _ =>
    rintro b ⟨⟩
    rcases hmark with rfl | rfl <;> rfl

/-- What follows the digits before the point starts with no digit. -/
theorem TailForm.noDigit (h : TailForm tail) (hrest : EndsValue rest) :
    NoDigit (tail ++ rest) := by
  cases h with
  | parts hfraction hexponent =>
    cases hfraction with
    | absent => exact hexponent.noDigit hrest
    | present _ =>
      rintro b ⟨⟩
      rfl

/-- Nothing may follow the digits before the point. -/
theorem TailForm.nil : TailForm [] :=
  .parts .absent .absent

end

namespace Numeral

variable {bs rest ds tail text : List UInt8} {b : UInt8} {negative : Bool} {x : Number}

/-! ## Numerals that nobody wants -/

/-- What is read past as an exponent is a sign and digits. -/
theorem exists_exponent (h : skipExponent bs = .ok rest) :
    ∃ sign ds, bs = sign ++ (ds ++ rest) ∧ SignForm sign ∧ Digits ds := by
  unfold skipExponent at h
  extract_lets after at h
  -- what comes after the sign is the same for every sign
  have hsign : ∃ sign, bs = sign ++ after ∧ SignForm sign := by
    subst after
    split
    · exact ⟨[plus], rfl, .plus⟩
    · exact ⟨[minus], rfl, .minus⟩
    · exact ⟨[], rfl, .absent⟩
  obtain ⟨sign, hbs, hsign⟩ := hsign
  clear_value after
  cases after with
  | nil => cases h
  | cons b after =>
    simp only at h
    split at h
    · next hb =>
      cases h
      obtain ⟨ds, hafter, hds⟩ := exists_digits after
      exact ⟨sign, b :: ds, by rw [hbs, List.cons_append, ← hafter], hsign, .cons hb hds⟩
    · cases h

/-- A sign and digits are read past as an exponent. -/
theorem skipExponent_append {sign : List UInt8} (hsign : SignForm sign) (hds : Digits ds)
    (hrest : NoDigit rest) : skipExponent (sign ++ (ds ++ rest)) = .ok rest := by
  obtain ⟨hne, hdigits⟩ := hds
  cases ds with
  | nil => exact absurd rfl hne
  | cons d ds =>
    obtain ⟨hd, hds⟩ := List.forall_mem_cons.mp hdigits
    have hskip := skipDigits_append hds hrest
    have hread : (if isDigit d then .ok (skipDigits (ds ++ rest))
        else .error (.before .invalidNumber (ds ++ rest))) = Except.ok (ε := Fault) rest := by
      rw [if_pos hd, hskip]
    cases hsign with
    | absent =>
      rw [List.nil_append, List.cons_append]
      unfold skipExponent
      split
      · next heq => exact absurd (List.cons.inj heq).1 (ne_of_isDigit hd rfl)
      · next heq => exact absurd (List.cons.inj heq).1 (ne_of_isDigit hd rfl)
      · exact hread
    | plus => exact hread
    | minus => exact hread

/-- An exponent that may be absent is read past by its mark. -/
theorem exists_exponentForm
    (h : (if startsExponent bs then skipExponent (bs.drop 1) else .ok bs) = .ok rest) :
    ∃ exponent, bs = exponent ++ rest ∧ ExponentForm exponent := by
  cases bs with
  | nil =>
    cases h
    exact ⟨[], rfl, .absent⟩
  | cons b bs =>
    split at h
    · next hstart =>
      simp only [startsExponent, Bool.or_eq_true, beq_iff_eq] at hstart
      obtain ⟨sign, ds, hbs, hsign, hds⟩ := exists_exponent h
      refine ⟨b :: (sign ++ ds), ?_, .present hstart hsign hds⟩
      rw [List.drop_one, List.tail_cons] at hbs
      rw [hbs, List.cons_append, List.append_assoc]
    · cases h
      exact ⟨[], rfl, .absent⟩

/-- An exponent is read past, if there is one. -/
theorem skip_exponentForm {exponent : List UInt8} (h : ExponentForm exponent)
    (hrest : EndsValue rest) :
    (if startsExponent (exponent ++ rest) then skipExponent ((exponent ++ rest).drop 1)
      else .ok (exponent ++ rest)) = .ok rest := by
  cases h with
  | absent =>
    cases rest with
    | nil => rfl
    | cons b rest =>
      obtain ⟨-, -, hsmall, hcapital⟩ := hrest.head
      rw [List.nil_append, if_neg (by simp [startsExponent, hsmall, hcapital])]
  | @present mark sign ds hmark hsign hds =>
    have hstart : startsExponent (mark :: (sign ++ ds) ++ rest) = true := by
      rcases hmark with rfl | rfl <;> rfl
    rw [if_pos hstart, List.cons_append, List.drop_one, List.tail_cons, List.append_assoc,
      skipExponent_append hsign hds hrest.noDigit]

/-- What is read past as a fraction are digits and an exponent. -/
theorem exists_fraction (h : skipFraction bs = .ok rest) :
    ∃ ds exponent, bs = ds ++ (exponent ++ rest) ∧ Digits ds ∧ ExponentForm exponent := by
  unfold skipFraction at h
  obtain ⟨ds, hbs, hds⟩ := exists_digits bs
  simp only at h
  split at h
  · cases h
  · next hfirst =>
    obtain ⟨exponent, hexponent, hform⟩ := exists_exponentForm h
    refine ⟨ds, exponent, by rw [← hexponent, ← hbs], ⟨?_, hds⟩, hform⟩
    rintro rfl
    -- without digits nothing is skipped, but the first byte is a digit
    cases bs with
    | nil => exact hfirst rfl
    | cons b bs =>
      have hb : isDigit b = true := by simpa using hfirst
      rw [List.nil_append, skipDigits, List.dropWhile_cons_of_pos hb] at hbs
      have hlength := congrArg List.length hbs
      have hle := (List.dropWhile_sublist isDigit (l := bs)).length_le
      rw [List.length_cons] at hlength
      omega

/-- Digits and an exponent are read past as a fraction. -/
theorem skipFraction_append {exponent : List UInt8} (hds : Digits ds)
    (hexponent : ExponentForm exponent) (hrest : EndsValue rest) :
    skipFraction (ds ++ (exponent ++ rest)) = .ok rest := by
  obtain ⟨hne, hdigits⟩ := hds
  have hfirst : (ds ++ (exponent ++ rest)).head?.any isDigit = true := by
    cases ds with
    | nil => exact absurd rfl hne
    | cons d ds => exact hdigits d List.mem_cons_self
  rw [skipFraction]
  simp only [hfirst, Bool.not_true, Bool.false_eq_true, if_false,
    skipDigits_append hdigits (hexponent.noDigit hrest)]
  exact skip_exponentForm hexponent hrest

/-- What is read past behind the digits before the point is a fraction and an exponent. -/
theorem exists_tailForm (h : skipAfterInteger bs = .ok rest) :
    ∃ tail, bs = tail ++ rest ∧ TailForm tail := by
  unfold skipAfterInteger at h
  split at h
  · obtain ⟨ds, exponent, rfl, hds, hexponent⟩ := exists_fraction h
    exact ⟨point :: ds ++ exponent, by simp, .parts (.present hds) hexponent⟩
  · obtain ⟨exponent, rfl, hexponent⟩ := exists_exponentForm h
    exact ⟨exponent, rfl, .parts .absent hexponent⟩

/-- A fraction and an exponent are read past behind the digits before the point. -/
theorem skipAfterInteger_append (htail : TailForm tail) (hrest : EndsValue rest) :
    skipAfterInteger (tail ++ rest) = .ok rest := by
  cases htail with
  | parts hfraction hexponent =>
    cases hfraction with
    | present hds =>
      rw [List.cons_append, List.cons_append, List.append_assoc]
      exact skipFraction_append hds hexponent hrest
    | absent =>
      have hread := skip_exponentForm hexponent hrest
      rw [List.nil_append, skipAfterInteger.eq_2]
      · exact hread
      · -- neither an exponent nor what may come after a value starts with a point
        intro after hpoint
        cases hexponent with
        | absent =>
          rw [List.nil_append] at hpoint
          exact (hpoint ▸ hrest).head.2.1 rfl
        | present hmark _ _ =>
          obtain ⟨rfl, -⟩ := List.cons.inj hpoint
          revert hmark
          decide

/-- What is read past as a number has the form of one. -/
theorem exists_magnitude (h : skip bs = .ok rest) : ∃ text, bs = text ++ rest ∧ Magnitude text := by
  cases bs with
  | nil => cases h
  | cons b bs =>
    unfold skip at h
    split at h
    · cases h
    · next heq =>
      obtain ⟨rfl, rfl⟩ := List.cons.inj heq
      split at h
      · next hzero =>
        subst hzero
        split at h
        · cases h
          exact ⟨[zero] ++ [], rfl, .parts .single_zero .nil⟩
        · split at h
          · cases h
          · obtain ⟨tail, htail, hform⟩ := exists_tailForm h
            exact ⟨[zero] ++ tail, by rw [htail]; rfl, .parts .single_zero hform⟩
      · next hzero =>
        split at h
        · next hb =>
          obtain ⟨ds, hbs, hds⟩ := exists_digits bs
          obtain ⟨tail, htail, hform⟩ := exists_tailForm h
          refine ⟨(b :: ds) ++ tail, ?_, .parts (.of_ne_zero hb hzero hds) hform⟩
          rw [List.append_assoc, ← htail, List.cons_append, ← hbs]
        · cases h

/-- What has the form of a number is read past. -/
theorem skip_append (h : Magnitude text) (hrest : EndsValue rest) :
    skip (text ++ rest) = .ok rest := by
  cases h with
  | @parts whole tail hwhole htail =>
    have hdigit : NoDigit (tail ++ rest) := htail.noDigit hrest
    have hafter := skipAfterInteger_append htail hrest
    rw [List.append_assoc]
    cases whole with
    | nil => exact absurd rfl hwhole.nonempty
    | cons b ds =>
      obtain ⟨hb, hds⟩ := List.forall_mem_cons.mp hwhole.digits
      rw [List.cons_append, skip.eq_def]
      simp only
      by_cases hzero : b = zero
      · have hnil : ds = [] := by
          have hwhole := hwhole.zero (by rw [hzero]; rfl)
          exact (List.cons.inj hwhole).2
        rw [if_pos hzero, hnil, List.nil_append]
        cases hnext : tail ++ rest with
        | nil =>
          rw [hnext] at hafter
          exact hafter
        | cons c after =>
          have hc : isDigit c = false := hdigit c (by rw [hnext]; rfl)
          rw [hnext] at hafter
          simp only [hc, Bool.false_eq_true, if_false, hafter]
      · rw [if_neg hzero, if_pos hb, skipDigits_append hds hdigit, hafter]

end Numeral

end IdentityGateway.Json
