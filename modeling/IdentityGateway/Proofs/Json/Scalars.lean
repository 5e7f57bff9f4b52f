import IdentityGateway.Json.Record
import IdentityGateway.Proofs.Json.Forms
import IdentityGateway.Proofs.Json.Numerals

/-!
# Scalars and their texts

A word, an integer and a string have texts, and the texts of a scalar are exactly what is read as
it. A part of a record that accepts only scalars is read from a text as from the scalar that the
text stands for.
-/

namespace IdentityGateway.Json

open Byte

/-- A scalar whose number, if it is one, is an integer of 64 bits. -/
inductive Value.Scalar : Value → Prop
  | null : Scalar .null
  | bool (b : Bool) : Scalar (.bool b)
  | integer {n : Int} (hn : IsWord n) : Scalar (integer n)
  | string (s : String) : Scalar (.string s)

/-- A text or `null` has no parts. -/
theorem Value.scalar_ofText? (s : Option String) : (ofText? s).Scalar := by
  cases s with
  | none => exact .null
  | some s => exact .string s

/-- A text of a scalar that is no fraction: one of the three words, an integer without fraction and
exponent, or a string between quotes. -/
inductive Writes : List UInt8 → Value → Prop
  | null : Writes (smallN :: nullRest) .null
  | true : Writes (smallT :: trueRest) (.bool true)
  | false : Writes (smallF :: falseRest) (.bool false)
  | integer {text : List UInt8} {n : Int} (htext : IntegerText text n) :
      Writes text (Value.integer n)
  | string {source : List UInt8} {s : String} (hsource : Spells source s) :
      Writes (quote :: (source ++ [quote])) (.string s)

section

variable {bs rest text before : List UInt8} {v : Value} {t : Token} {n : Int}

/-! ## Forms -/

/-- Digits are a numeral without fraction and exponent. -/
theorem WholeDigits.magnitude {ds : List UInt8} (h : WholeDigits ds) : Magnitude ds := by
  have hparts := Magnitude.parts h .nil
  rwa [List.append_nil] at hparts

private theorem IntegerText.numeralForm (h : IntegerText text n) : NumeralForm text := by
  cases h with
  | positive hds => exact .positive hds.magnitude
  | negative hds _ => exact .negative hds.magnitude

/-- What is written of a scalar is a scalar of the grammar. -/
theorem Writes.scalarForm (h : Writes text v) : ScalarForm text := by
  cases h with
  | null => exact .null
  | true => exact .true
  | false => exact .false
  | integer htext => exact .number htext.numeralForm
  | string hsource => exact .string hsource.stringForm

/-- The text of a scalar starts with no blank. -/
theorem Writes.exists_cons (h : Writes text v) :
    ∃ b bs, text = b :: bs ∧ isBlank b = Bool.false := by
  obtain ⟨b, bs, heq, hb, -⟩ := (ValueForm.scalar h.scalarForm).exists_cons
  exact ⟨b, bs, heq, hb⟩

/-- The text of a scalar that starts like `null` is it. -/
theorem Writes.eq_null (h : Writes (smallN :: bs) v) : v = .null := by
  generalize heq : smallN :: bs = text at h
  cases h with
  | null => rfl
  | true => cases heq
  | false => cases heq
  | string _ => cases heq
  | integer htext =>
    cases htext with
    | negative _ _ => cases heq
    | positive hds =>
      subst heq
      exact absurd (hds.digits _ List.mem_cons_self) (by decide)

/-! ## What is read as a scalar -/

/-- What is read before a function is applied to it. -/
theorem exists_of_map_eq_ok {ε α β : Type} {f : α → β} {r : Except ε α} {b : β}
    (h : r.map f = .ok b) : ∃ a, r = .ok a ∧ f a = b := by
  cases r with
  | error e => cases h
  | ok a => exact ⟨a, rfl, Except.ok.inj h⟩

/-- A text is that of a scalar, or a numeral that is read as a fraction; which one, is left open. -/
inductive TextOf (text : List UInt8) : Token → Prop
  | real {x : Binary64} (htext : NumeralForm text) : TextOf text (.number (.real x))
  | scalar {v : Value} (hwrites : Writes text v) : TextOf text v.token

/-- A number that was read is a fraction, or was read from the text of an integer. -/
theorem NumberText.textOf {x : Number} (h : NumberText text x) : TextOf text (.number x) := by
  cases x with
  | real y => exact .real h.form
  | integer n => exact .scalar (.integer (h.integer n rfl))

/-- What is read as a scalar has the text of one. -/
theorem exists_textOf {b : UInt8} (h : scalar b bs = .ok (t, rest)) :
    ∃ text, b :: bs = text ++ rest ∧ TextOf text t := by
  unfold scalar at h
  split at h
  · next hb =>
    obtain ⟨_, hword, heq⟩ := exists_of_map_eq_ok h
    obtain ⟨rfl, rfl⟩ := Prod.mk.inj heq
    exact ⟨_, by rw [hb, word_eq_ok_iff.mp hword]; rfl, .scalar .null⟩
  split at h
  · next hb =>
    obtain ⟨_, hword, heq⟩ := exists_of_map_eq_ok h
    obtain ⟨rfl, rfl⟩ := Prod.mk.inj heq
    exact ⟨_, by rw [hb, word_eq_ok_iff.mp hword]; rfl, .scalar .true⟩
  split at h
  · next hb =>
    obtain ⟨_, hword, heq⟩ := exists_of_map_eq_ok h
    obtain ⟨rfl, rfl⟩ := Prod.mk.inj heq
    exact ⟨_, by rw [hb, word_eq_ok_iff.mp hword]; rfl, .scalar .false⟩
  split at h
  · next hb =>
    obtain ⟨⟨x, after⟩, hnumber, heq⟩ := exists_of_map_eq_ok h
    obtain ⟨rfl, rfl⟩ := Prod.mk.inj heq
    obtain ⟨text, htext, hx⟩ := Numeral.exists_numberText_minus hnumber
    exact ⟨text, by rw [hb, htext], hx.textOf⟩
  split at h
  · obtain ⟨⟨x, after⟩, hnumber, heq⟩ := exists_of_map_eq_ok h
    obtain ⟨rfl, rfl⟩ := Prod.mk.inj heq
    obtain ⟨text, htext, hx⟩ := Numeral.exists_numberText hnumber
    exact ⟨text, htext, hx.textOf⟩
  split at h
  · next hb =>
    obtain ⟨⟨s, after⟩, hstring, heq⟩ := exists_of_map_eq_ok h
    obtain ⟨rfl, rfl⟩ := Prod.mk.inj heq
    obtain ⟨source, rfl, hsource⟩ := string_eq_ok_iff.mp hstring
    exact ⟨quote :: (source ++ [quote]), by rw [hb]; simp, .scalar (.string hsource)⟩
  · cases h

/-! ## Reading a text of a scalar -/

/-- The text of a scalar is read as the scalar. -/
theorem Writes.scalar (h : Writes text v) (hv : v.Scalar) (hrest : EndsValue rest) :
    ∃ b bs, text ++ rest = b :: bs ∧ StartsScalar b ∧ Json.scalar b bs = .ok (v.token, rest) := by
  cases h with
  | null => exact ⟨_, _, rfl, ⟨rfl, by decide, by decide, by decide⟩, rfl⟩
  | true => exact ⟨_, _, rfl, ⟨rfl, by decide, by decide, by decide⟩, rfl⟩
  | false => exact ⟨_, _, rfl, ⟨rfl, by decide, by decide, by decide⟩, rfl⟩
  | integer htext =>
    cases hv with
    | integer hn =>
      obtain ⟨b, bs, heq, hfirst, hread⟩ := htext.scalar hn hrest
      refine ⟨b, bs, heq, ?_, hread⟩
      rcases hfirst with rfl | hdigit
      · exact ⟨rfl, by decide, by decide, by decide⟩
      · exact .of_isDigit hdigit
  | @string source s hsource =>
    refine ⟨quote, source ++ quote :: rest, by simp, ⟨rfl, by decide, by decide, by decide⟩, ?_⟩
    rw [Json.scalar, if_neg (by decide), if_neg (by decide), if_neg (by decide),
      if_neg (by decide), if_neg (by decide), if_pos rfl,
      string_eq_ok_iff.mpr ⟨source, rfl, hsource⟩]
    rfl

/-- The text of a scalar is read as its token, with the blanks before it. -/
theorem Writes.token (h : Writes text v) (hv : v.Scalar) (hbefore : AllBlank before)
    (hrest : EndsValue rest) : Json.token (before ++ (text ++ rest)) = .ok (v.token, rest) := by
  obtain ⟨b, bs, heq, hb, hread⟩ := h.scalar hv hrest
  rw [heq, Json.token, skipBlanks_append_cons hbefore hb.blank]
  simp only [if_neg hb.openList, if_neg hb.openObject, hread]

/-- The text of a scalar is read as a value, with the blanks before it. -/
theorem Writes.value (h : Writes text v) (hv : v.Scalar) (object : ObjectReader) (levels : Nat)
    (hbefore : AllBlank before) (hrest : EndsValue rest) :
    valueBy object levels (before ++ (text ++ rest)) = .ok (v, rest) := by
  obtain ⟨b, bs, heq, hb, hread⟩ := h.scalar hv hrest
  rw [heq, valueBy, skipBlanks_append_cons hbefore hb.blank]
  simp only [if_neg hb.openList, if_neg hb.openObject, hread]
  cases hv <;> rfl

end

/-! ## What values are read as -/

namespace Codec

variable {α β : Type} {c : Codec α} {v : Value}

/-- Only a string is read as a text. -/
theorem fromValue_string_iff {s : String} : string.fromValue v = .ok s ↔ v = .string s := by
  constructor
  · intro h
    cases v with
    | string s => exact congrArg Value.string (Except.ok.inj h)
    | _ => cases h
  · rintro rfl
    rfl

/-- Only a truth value is read as one. -/
theorem fromValue_bool_iff {b : Bool} : bool.fromValue v = .ok b ↔ v = .bool b := by
  constructor
  · intro h
    cases v with
    | bool b => exact congrArg Value.bool (Except.ok.inj h)
    | _ => cases h
  · rintro rfl
    rfl

/-- Only an integer of 64 bits without a sign is read as a number. -/
theorem fromValue_word_iff {n : Nat} :
    word.fromValue v = .ok n ↔ v = Value.integer n ∧ n < Nat.pow 2 64 := by
  constructor
  · intro h
    cases v with
    | number x =>
      cases x with
      | real y => cases h
      | integer m =>
        change (if 0 ≤ m ∧ m < Nat.pow 2 64 then Except.ok m.toNat else _) = _ at h
        split at h
        · next hm =>
          obtain rfl := Except.ok.inj h
          obtain ⟨hlow, hhigh⟩ := hm
          rw [Value.integer, Int.toNat_of_nonneg hlow]
          exact ⟨rfl, (Int.toNat_lt hlow).mpr hhigh⟩
        · cases h
    | _ => cases h
  · rintro ⟨rfl, hn⟩
    have hword : (0 : Int) ≤ n ∧ (n : Int) < Nat.pow 2 64 := ⟨Int.natCast_nonneg n, by omega⟩
    simp only [word, ofToken, Value.integer, Value.token, if_pos hword, Int.toNat_natCast]

/-- An optional thing is `null`, or what another value is read as. -/
theorem fromValue_option_iff {o : Option α} : (option c).fromValue v = .ok o ↔
    v = .null ∧ o = none ∨ v ≠ .null ∧ ∃ a, c.fromValue v = .ok a ∧ o = some a := by
  have hsome : (c.map some).fromValue v = .ok o ↔ ∃ a, c.fromValue v = .ok a ∧ o = some a := by
    constructor
    · intro h
      obtain ⟨a, ha, rfl⟩ := exists_of_map_eq_ok h
      exact ⟨a, ha, rfl⟩
    · rintro ⟨a, ha, rfl⟩
      exact congrArg (Except.map some) ha
  cases v with
  | null =>
    simp only [ne_eq, not_true_eq_false, false_and, or_false, true_and]
    exact ⟨fun h => (Except.ok.inj h).symm, fun h => h ▸ rfl⟩
  | _ => simpa [option] using hsome

/-! ## Parts that are scalars -/

/-- A thing is made of scalars only, and of the text of a scalar as of the scalar. -/
structure ByScalar (c : Codec α) : Prop where
  scalar {v : Value} {a : α} : c.fromValue v = .ok a → v.Scalar
  sound {levels : Nat} {bs rest : List UInt8} {a : α} :
    c.fromText levels bs = .ok (.ok a, rest) → ∃ before text v, bs = before ++ (text ++ rest) ∧
      AllBlank before ∧ Writes text v ∧ c.fromValue v = .ok a
  complete (levels : Nat) {before text rest : List UInt8} {v : Value} {a : α} :
    Writes text v → c.fromValue v = .ok a → AllBlank before → EndsValue rest →
      c.fromText levels (before ++ (text ++ rest)) = .ok (.ok a, rest)

/-- A thing that is made of scalars may be made into another one. -/
theorem ByScalar.map (h : c.ByScalar) (f : α → β) : (c.map f).ByScalar where
  scalar hvalue := by
    obtain ⟨a, ha, -⟩ := exists_of_map_eq_ok hvalue
    exact h.scalar ha
  sound htext := by
    obtain ⟨⟨r, rest⟩, hread, heq⟩ := exists_of_map_eq_ok htext
    obtain ⟨hr, rfl⟩ := Prod.mk.inj heq
    obtain ⟨a, rfl, rfl⟩ := exists_of_map_eq_ok hr
    obtain ⟨before, text, v, hbs, hbefore, hwrites, hvalue⟩ := h.sound hread
    refine ⟨before, text, v, hbs, hbefore, hwrites, ?_⟩
    simp only [Codec.map, hvalue]
    rfl
  complete levels _ _ _ _ _ hwrites hvalue hbefore hrest := by
    obtain ⟨a, ha, rfl⟩ := exists_of_map_eq_ok hvalue
    simp only [Codec.map, h.complete levels hwrites ha hbefore hrest]
    rfl

/-- A thing that is judged by its outermost form is made of scalars if only those are accepted. -/
theorem byScalar_ofToken {accept : Token → Except Mismatch α}
    (haccept : ∀ (v : Value) (a : α), accept v.token = .ok a → v.Scalar) :
    (ofToken accept).ByScalar where
  scalar hvalue := haccept _ _ hvalue
  sound {levels bs rest a} htext := by
    simp only [ofToken] at htext
    split at htext
    · cases htext
    next t after htoken =>
    split at htext
    · next a' ha =>
      obtain ⟨heq, rfl⟩ := Prod.mk.inj (Except.ok.inj htext)
      obtain rfl := Except.ok.inj heq
      unfold Json.token at htoken
      split at htoken
      · cases htoken
      next b tail hskip =>
      obtain ⟨before, rfl, hbefore, -⟩ := exists_blanks hskip
      split at htoken
      · obtain ⟨rfl, -⟩ := Prod.mk.inj (Except.ok.inj htoken)
        cases haccept (.array []) _ ha
      split at htoken
      · obtain ⟨rfl, -⟩ := Prod.mk.inj (Except.ok.inj htoken)
        cases haccept (.object []) _ ha
      obtain ⟨text, heq, @⟨y, -⟩ | @⟨v, hwrites⟩⟩ := exists_textOf htoken
      · cases haccept (.number (.real y)) _ ha
      · exact ⟨before, text, v, by rw [heq], hbefore, hwrites, by simp only [ofToken, ha]⟩
    · cases htext
  complete levels before text rest v a hwrites hvalue hbefore hrest := by
    have ha : accept v.token = .ok a := hvalue
    simp only [ofToken, hwrites.token (haccept _ _ ha) hbefore hrest, ha]

/-- Another value than `null` is read as what it may be. -/
theorem fromValue_option_of_ne_null {v : Value} (hv : v ≠ .null) :
    (option c).fromValue v = (c.map some).fromValue v := by
  cases v with
  | null => exact absurd rfl hv
  | _ => rfl

/-- What is read where `null` may be, but does not start, is the text of a scalar. -/
theorem ByScalar.option_some (h : c.ByScalar) {levels : Nat} {bs rest : List UInt8} {a : Option α}
    (hstart : ∀ tail, skipBlanks bs ≠ smallN :: tail)
    (hread : (c.map some).fromText levels bs = .ok (.ok a, rest)) :
    ∃ before text v, bs = before ++ (text ++ rest) ∧ AllBlank before ∧ Writes text v ∧
      (option c).fromValue v = .ok a := by
  obtain ⟨before, text, v, rfl, hbefore, hwrites, hvalue⟩ := (h.map some).sound hread
  have hv : v ≠ .null := by
    rintro rfl
    cases hwrites
    exact hstart _ (skipBlanks_append_cons hbefore (show isBlank smallN = false from rfl) _)
  refine ⟨before, text, v, rfl, hbefore, hwrites, ?_⟩
  rw [fromValue_option_of_ne_null hv, hvalue]

/-- An optional thing is made of scalars if the thing is. -/
theorem ByScalar.option (h : c.ByScalar) : (Codec.option c).ByScalar where
  scalar {v a} hvalue := by
    by_cases hv : v = .null
    · exact hv ▸ .null
    · rw [fromValue_option_of_ne_null hv] at hvalue
      exact (h.map some).scalar hvalue
  sound {levels bs rest a} htext := by
    simp only [Codec.option] at htext
    split at htext
    · next b tail hskip =>
      split at htext
      · next hb =>
        split at htext
        · cases htext
        next hword =>
        obtain ⟨heq, rfl⟩ := Prod.mk.inj (Except.ok.inj htext)
        obtain rfl := Except.ok.inj heq
        obtain ⟨before, rfl, hbefore, -⟩ := exists_blanks hskip
        exact ⟨before, _, .null, by rw [hb, word_eq_ok_iff.mp hword]; rfl, hbefore, .null, rfl⟩
      · next hb =>
        refine h.option_some (fun tail' heq => hb ?_) htext
        exact (List.cons.inj (hskip.symm.trans heq)).1
    · next hskip =>
      refine h.option_some (fun tail heq => ?_) htext
      cases hskip.symm.trans heq
  complete levels before text rest v a hwrites hvalue hbefore hrest := by
    obtain ⟨b, bs, rfl, hb⟩ := hwrites.exists_cons
    by_cases hnull : b = smallN
    · subst hnull
      obtain rfl := hwrites.eq_null
      cases hwrites
      obtain rfl := Except.ok.inj hvalue
      have hword := word_eq_ok_iff.mpr (show nullRest ++ rest = nullRest ++ rest from rfl)
      simp only [Codec.option, List.cons_append, skipBlanks_append_cons hbefore hb, if_true, hword]
    · have hv : v ≠ .null := by
        rintro rfl
        cases hwrites
        exact hnull rfl
      rw [fromValue_option_of_ne_null hv] at hvalue
      have hread := (h.map some).complete levels hwrites hvalue hbefore hrest
      rw [List.cons_append] at hread ⊢
      simp only [Codec.option, skipBlanks_append_cons hbefore hb, if_neg hnull, hread]

/-- A text is made of a string. -/
theorem byScalar_string : string.ByScalar := by
  refine byScalar_ofToken ?_
  intro v s haccept
  exact fromValue_string_iff.mp haccept ▸ .string s

/-- A truth value is made of one of the two words. -/
theorem byScalar_bool : bool.ByScalar := by
  refine byScalar_ofToken ?_
  intro v b haccept
  exact fromValue_bool_iff.mp haccept ▸ .bool b

end Codec

end IdentityGateway.Json
