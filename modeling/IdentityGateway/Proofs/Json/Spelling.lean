import IdentityGateway.Json.Skip
import IdentityGateway.Proofs.Text.Utf8

/-!
# How strings are spelled

Between its quotes a string is spelled by bytes that stand for themselves and by escapes. Reading a
string gives the text that it spells. A string that nobody wants has the same form, except that its
escapes need not stand for characters and its bytes need not be those of a text.
-/

namespace IdentityGateway.Json

open Byte

/-! ## Forms -/

/-- A byte that stands for itself inside a string. -/
def IsPlain (b : UInt8) : Prop := b ≠ quote ∧ b ≠ backslash ∧ ¬ b < 0x20

/-- Four hexadecimal digits and their number. -/
inductive Quad : List UInt8 → Nat → Prop
  | digits {a b c d : UInt8} {x y z w : Nat} (ha : hexValue? a = some x) (hb : hexValue? b = some y)
      (hc : hexValue? c = some z) (hd : hexValue? d = some w) :
      Quad [a, b, c, d] (((x * 16 + y) * 16 + z) * 16 + w)

/-- What follows a backslash, and the bytes that it stands for. A character is given by its number,
or by the two numbers that surrogates make of it. -/
inductive Escape : List UInt8 → List UInt8 → Prop
  | quote : Escape [quote] [quote]
  | backslash : Escape [backslash] [backslash]
  | slash : Escape [slash] [slash]
  | backspace : Escape [smallB] [0x08]
  | formFeed : Escape [smallF] [0x0C]
  | lineFeed : Escape [smallN] [0x0A]
  | carriageReturn : Escape [smallR] [0x0D]
  | tab : Escape [smallT] [0x09]
  | number {digits : List UInt8} {n : Nat} (hdigits : Quad digits n)
      (hn : n < 0xD800 ∨ 0xDFFF < n) : Escape (smallU :: digits) (codePointBytes n)
  | pair {first second : List UInt8} {high low : Nat} (hfirst : Quad first high)
      (hhigh : 0xD800 ≤ high ∧ high ≤ 0xDBFF) (hsecond : Quad second low)
      (hlow : 0xDC00 ≤ low ∧ low ≤ 0xDFFF) :
      Escape (smallU :: (first ++ Byte.backslash :: smallU :: second))
        (codePointBytes ((high - 0xD800) * 0x400 + (low - 0xDC00) + 0x10000))

/-- Bytes between quotes, and the bytes that they stand for. -/
inductive StandsFor : List UInt8 → List UInt8 → Prop
  | nil : StandsFor [] []
  | plain {b : UInt8} {source out : List UInt8} (hb : IsPlain b) (hrest : StandsFor source out) :
      StandsFor (b :: source) (b :: out)
  | escape {mark bytes source out : List UInt8} (hmark : Escape mark bytes)
      (hrest : StandsFor source out) : StandsFor (backslash :: (mark ++ source)) (bytes ++ out)

/-- Bytes between quotes spell a text: they stand for its bytes. -/
def Spells (source : List UInt8) (s : String) : Prop :=
  StandsFor source (Text.utf8 s.toList)

/-- What follows a backslash in a string that nobody wants. -/
inductive EscapeForm : List UInt8 → Prop
  | short {b : UInt8} (hb : b = quote ∨ b = backslash ∨ b = slash ∨ b = smallB ∨ b = smallF ∨
      b = smallN ∨ b = smallR ∨ b = smallT) : EscapeForm [b]
  | number {digits : List UInt8} {n : Nat} (hdigits : Quad digits n) : EscapeForm (smallU :: digits)

/-- Bytes between the quotes of a string that nobody wants. -/
inductive StringForm : List UInt8 → Prop
  | nil : StringForm []
  | plain {b : UInt8} {source : List UInt8} (hb : IsPlain b) (hrest : StringForm source) :
      StringForm (b :: source)
  | escape {mark source : List UInt8} (hmark : EscapeForm mark) (hrest : StringForm source) :
      StringForm (backslash :: (mark ++ source))

section

variable {bs rest source out : List UInt8} {s : String}

/-- Bytes that stand for themselves are put before others. -/
theorem StandsFor.append_plain {bytes : List UInt8} (hbytes : ∀ b ∈ bytes, IsPlain b)
    (h : StandsFor source out) : StandsFor (bytes ++ source) (bytes ++ out) := by
  induction bytes with
  | nil => exact h
  | cons b bytes ih =>
    obtain ⟨hb, hothers⟩ := List.forall_mem_cons.mp hbytes
    exact .plain hb (ih hothers)

/-- Whatever is between the quotes of a string that was read has the form of one. -/
theorem StandsFor.stringForm (h : StandsFor source out) : StringForm source := by
  induction h with
  | nil => exact .nil
  | plain hb _ ih => exact .plain hb ih
  | escape hmark _ ih =>
    cases hmark with
    | quote => exact .escape (.short (.inl rfl)) ih
    | backslash => exact .escape (.short (by decide)) ih
    | slash => exact .escape (.short (by decide)) ih
    | backspace => exact .escape (.short (by decide)) ih
    | formFeed => exact .escape (.short (by decide)) ih
    | lineFeed => exact .escape (.short (by decide)) ih
    | carriageReturn => exact .escape (.short (by decide)) ih
    | tab => exact .escape (.short (by decide)) ih
    | number hdigits _ => exact .escape (.number hdigits) ih
    | pair hfirst _ hsecond _ =>
      rw [List.cons_append, List.append_assoc, List.cons_append, List.cons_append]
      exact .escape (.number hfirst) (.escape (.number hsecond) ih)

/-! ## Escapes -/

/-- Four digits are read as their number. -/
theorem hexQuad_eq_ok_iff {n : Nat} :
    hexQuad bs = .ok (n, rest) ↔ ∃ digits, bs = digits ++ rest ∧ Quad digits n := by
  constructor
  · intro h
    unfold hexQuad at h
    split at h
    · split at h
      · next ha hb hc hd =>
        cases h
        exact ⟨_, rfl, .digits ha hb hc hd⟩
      · cases h
    · cases h
  · rintro ⟨digits, rfl, hdigits⟩
    cases hdigits with
    | digits ha hb hc hd => simp only [List.cons_append, List.nil_append, hexQuad, ha, hb, hc, hd]

/-- The second half of a pair is read where it is written. -/
theorem lowSurrogate_eq_ok_iff {high : Nat} :
    lowSurrogate high bs = .ok (out, rest) ↔ ∃ digits low,
      bs = backslash :: smallU :: (digits ++ rest) ∧ Quad digits low ∧
        (0xDC00 ≤ low ∧ low ≤ 0xDFFF) ∧
        out = codePointBytes ((high - 0xD800) * 0x400 + (low - 0xDC00) + 0x10000) := by
  constructor
  · intro h
    unfold lowSurrogate at h
    split at h
    · cases h
    · next b bs =>
      split at h
      · cases h
      · next hb =>
        split at h
        · cases h
        · next c bs =>
          split at h
          · cases h
          · next hc =>
            split at h
            · cases h
            · next low after hquad =>
              split at h
              · next hlow =>
                obtain ⟨hout, rfl⟩ := Prod.mk.inj (Except.ok.inj h)
                obtain ⟨digits, rfl, hdigits⟩ := hexQuad_eq_ok_iff.mp hquad
                exact ⟨digits, low, by rw [Decidable.not_not.mp hb, Decidable.not_not.mp hc],
                  hdigits, hlow, hout.symm⟩
              · cases h
  · rintro ⟨digits, low, rfl, hdigits, hlow, hout⟩
    simp only [lowSurrogate, ne_eq, not_true_eq_false, if_false,
      hexQuad_eq_ok_iff.mpr ⟨digits, rfl, hdigits⟩, if_pos hlow, hout]

/-- A character given by its number is read as an escape. -/
theorem numberedChar_eq_ok_iff :
    numberedChar bs = .ok (out, rest) ↔
      ∃ mark, bs = mark ++ rest ∧ Escape (smallU :: mark) out := by
  constructor
  · intro h
    unfold numberedChar at h
    split at h
    · cases h
    · next n after hquad =>
      obtain ⟨digits, rfl, hdigits⟩ := hexQuad_eq_ok_iff.mp hquad
      split at h
      · cases h
      · next hlow =>
        split at h
        · next hhigh =>
          obtain ⟨second, low, rfl, hsecond, hrange, hout⟩ := lowSurrogate_eq_ok_iff.mp h
          rw [hout]
          exact ⟨digits ++ backslash :: smallU :: second, by simp,
            .pair hdigits hhigh hsecond hrange⟩
        · next hhigh =>
          cases h
          exact ⟨digits, rfl, .number hdigits (by omega)⟩
  · rintro ⟨mark, rfl, hmark⟩
    cases hmark with
    | number hdigits hn =>
      simp only [numberedChar, hexQuad_eq_ok_iff.mpr ⟨_, rfl, hdigits⟩]
      rw [if_neg (by omega), if_neg (by omega)]
    | pair hfirst hhigh hsecond hlow =>
      rw [List.append_assoc]
      simp only [numberedChar, hexQuad_eq_ok_iff.mpr ⟨_, rfl, hfirst⟩]
      rw [if_neg (by omega), if_pos hhigh, lowSurrogate_eq_ok_iff]
      exact ⟨_, _, rfl, hsecond, hlow, rfl⟩

/-- An escape is read as the bytes that it stands for. -/
theorem escape_eq_ok_iff :
    escape bs = .ok (out, rest) ↔ ∃ mark, bs = mark ++ rest ∧ Escape mark out := by
  constructor
  · intro h
    unfold escape at h
    split at h
    · cases h
    · next b bs =>
      split at h
      · next hb =>
        cases h
        refine ⟨[b], rfl, ?_⟩
        rcases hb with rfl | rfl | rfl
        · exact .quote
        · exact .backslash
        · exact .slash
      split at h
      · next hb => cases h; exact ⟨[b], rfl, hb ▸ .backspace⟩
      split at h
      · next hb => cases h; exact ⟨[b], rfl, hb ▸ .formFeed⟩
      split at h
      · next hb => cases h; exact ⟨[b], rfl, hb ▸ .lineFeed⟩
      split at h
      · next hb => cases h; exact ⟨[b], rfl, hb ▸ .carriageReturn⟩
      split at h
      · next hb => cases h; exact ⟨[b], rfl, hb ▸ .tab⟩
      split at h
      · next hb =>
        obtain ⟨mark, rfl, hmark⟩ := numberedChar_eq_ok_iff.mp h
        exact ⟨b :: mark, rfl, hb ▸ hmark⟩
      · cases h
  · rintro ⟨mark, rfl, hmark⟩
    cases hmark with
    | number hdigits hn => exact numberedChar_eq_ok_iff.mpr ⟨_, rfl, .number hdigits hn⟩
    | pair hfirst hhigh hsecond hlow =>
      exact numberedChar_eq_ok_iff.mpr ⟨_, rfl, .pair hfirst hhigh hsecond hlow⟩
    | _ => rfl

/-! ## Strings -/

/-- The bytes of a string are those that its bytes up to the closing quote stand for. -/
theorem exists_standsFor {acc bytes : List UInt8} {steps : Budget}
    (h : stringBytes acc steps bs = .ok (bytes, rest)) :
    ∃ source out after, bs = source ++ quote :: after ∧ rest = quote :: after ∧
      StandsFor source out ∧ bytes = acc.reverse ++ out := by
  induction steps generalizing acc bs with
  | nil => cases h
  | cons step steps ih =>
    cases bs with
    | nil => cases h
    | cons b bs =>
      rw [stringBytes] at h
      split at h
      · next hquote =>
        cases h
        exact ⟨[], [], bs, by rw [hquote]; rfl, by rw [hquote], .nil, (List.append_nil _).symm⟩
      · next hquote =>
        split at h
        · next hbackslash =>
          split at h
          · cases h
          · next spelled after hescape =>
            obtain ⟨mark, rfl, hmark⟩ := escape_eq_ok_iff.mp hescape
            obtain ⟨source, out, last, rfl, hrest, hstands, rfl⟩ := ih h
            refine ⟨_, _, last, ?_, hrest, .escape hmark hstands, ?_⟩
            · rw [hbackslash, List.cons_append, List.append_assoc]
            · rw [List.reverseAux_eq, List.reverse_append, List.reverse_reverse, List.append_assoc]
        · next hbackslash =>
          split at h
          · cases h
          · next hcontrol =>
            obtain ⟨source, out, last, rfl, hrest, hstands, rfl⟩ := ih h
            refine ⟨b :: source, b :: out, last, rfl, hrest,
              .plain ⟨hquote, hbackslash, hcontrol⟩ hstands, ?_⟩
            rw [List.reverse_cons, List.append_assoc, List.singleton_append]

/-- Bytes that stand for others are read in some steps, of which there are no more than bytes. -/
theorem StandsFor.stringBytes (h : StandsFor source out) : ∃ n ≤ source.length,
    ∀ (acc : List UInt8) (steps : Budget) (rest : List UInt8), n ≤ steps.length →
      Json.stringBytes acc steps (source ++ rest) =
        Json.stringBytes (out.reverse ++ acc) (steps.drop n) rest := by
  induction h with
  | nil => exact ⟨0, Nat.le_refl 0, fun _ _ _ _ => rfl⟩
  | @plain b source out hb _ ih =>
    obtain ⟨n, hn, hread⟩ := ih
    refine ⟨n + 1, Nat.succ_le_succ hn, fun acc steps rest hsteps => ?_⟩
    cases steps with
    | nil => cases hsteps
    | cons step steps =>
      obtain ⟨hquote, hbackslash, hcontrol⟩ := hb
      rw [List.cons_append, Json.stringBytes, if_neg hquote, if_neg hbackslash, if_neg hcontrol,
        hread _ _ _ (Nat.le_of_succ_le_succ hsteps), List.drop_succ_cons]
      simp
  | @escape mark bytes source out hmark _ ih =>
    obtain ⟨n, hn, hread⟩ := ih
    refine ⟨n + 1, ?_, fun acc steps rest hsteps => ?_⟩
    · rw [List.length_cons, List.length_append]
      omega
    cases steps with
    | nil => cases hsteps
    | cons step steps =>
      rw [List.cons_append, List.append_assoc, Json.stringBytes, if_neg (by decide), if_pos rfl,
        escape_eq_ok_iff.mpr ⟨mark, rfl, hmark⟩]
      simp only [hread _ _ _ (Nat.le_of_succ_le_succ hsteps), List.drop_succ_cons]
      simp

/-- Bytes encode a text exactly if they are its bytes. -/
theorem decodeUtf8_eq_some_iff {bytes : List UInt8} :
    decodeUtf8 bytes = some s ↔ bytes = Text.utf8 s.toList := by
  constructor
  · intro h
    rw [decodeUtf8, String.fromUTF8?] at h
    split at h
    · next hvalid =>
      cases h
      have hencoded : (String.fromUTF8 ⟨bytes.toArray⟩ hvalid).toList.utf8Encode =
          ⟨bytes.toArray⟩ := String.utf8Encode_toList
      have hdata := congrArg (fun a : ByteArray => a.data.toList) hencoded
      exact hdata.symm.trans List.toList_data_toByteArray
    · cases h
  · rintro rfl
    exact decodeUtf8_utf8 s

/-- A string is read up to its closing quote as the text that it spells. -/
theorem string_eq_ok_iff :
    string bs = .ok (s, rest) ↔ ∃ source, bs = source ++ quote :: rest ∧ Spells source s := by
  constructor
  · intro h
    unfold string at h
    split at h
    · cases h
    · next bytes left hread =>
      obtain ⟨source, out, after, rfl, rfl, hstands, rfl⟩ := exists_standsFor hread
      split at h
      · next text htext =>
        cases h
        refine ⟨source, rfl, ?_⟩
        rw [Spells, ← decodeUtf8_eq_some_iff.mp htext]
        exact hstands
      · cases h
  · rintro ⟨source, rfl, hspells⟩
    obtain ⟨n, hn, hread⟩ := StandsFor.stringBytes hspells
    have hbudget : n < (budget (source ++ quote :: rest)).length := by
      simp only [budget, List.length_cons, List.length_append]
      omega
    have hlast : Json.stringBytes [] (budget (source ++ quote :: rest)) (source ++ quote :: rest) =
        .ok (Text.utf8 s.toList, quote :: rest) := by
      rw [hread _ _ _ (Nat.le_of_lt hbudget)]
      cases hsteps : (budget (source ++ quote :: rest)).drop n with
      | nil => exact absurd (List.drop_eq_nil_iff.mp hsteps) (Nat.not_le.mpr hbudget)
      | cons step steps =>
        rw [Json.stringBytes, if_pos rfl, List.append_nil, List.reverse_reverse]
    simp only [string, hlast, decodeUtf8_utf8, List.drop_one, List.tail_cons]

/-! ## Strings that nobody wants -/

/-- A string that is read past has the form of one. -/
theorem exists_stringForm {steps : Budget} (h : skipString steps bs = .ok rest) :
    ∃ source, bs = source ++ quote :: rest ∧ StringForm source := by
  induction steps generalizing bs with
  | nil => cases h
  | cons step steps ih =>
    cases bs with
    | nil => cases h
    | cons b bs =>
      rw [skipString.eq_def] at h
      simp only at h
      split at h
      · next hquote =>
        cases h
        exact ⟨[], by rw [hquote]; rfl, .nil⟩
      · next hquote =>
        split at h
        · next hbackslash =>
          split at h
          · cases h
          · next mark after =>
            split at h
            · next hmark =>
              obtain ⟨source, rfl, hform⟩ := ih h
              exact ⟨backslash :: ([mark] ++ source), by rw [hbackslash]; rfl,
                .escape (.short hmark) hform⟩
            · split at h
              · next hmark =>
                split at h
                · cases h
                · next n left hquad =>
                  obtain ⟨digits, rfl, hdigits⟩ := hexQuad_eq_ok_iff.mp hquad
                  obtain ⟨source, rfl, hform⟩ := ih h
                  refine ⟨backslash :: (smallU :: digits ++ source), ?_,
                    .escape (.number hdigits) hform⟩
                  rw [hbackslash, hmark]
                  simp
              · cases h
        · next hbackslash =>
          split at h
          · cases h
          · next hcontrol =>
            obtain ⟨source, rfl, hform⟩ := ih h
            exact ⟨b :: source, rfl, .plain ⟨hquote, hbackslash, hcontrol⟩ hform⟩

/-- What has the form of a string is read past, if there are more steps than bytes. -/
theorem StringForm.skipString (h : StringForm source) (rest : List UInt8) {steps : Budget}
    (hsteps : source.length < steps.length) :
    Json.skipString steps (source ++ quote :: rest) = .ok rest := by
  induction h generalizing steps with
  | nil =>
    cases steps with
    | nil => cases hsteps
    | cons step steps => rfl
  | @plain b source hb _ ih =>
    cases steps with
    | nil => cases hsteps
    | cons step steps =>
      obtain ⟨hquote, hbackslash, hcontrol⟩ := hb
      rw [List.cons_append, Json.skipString.eq_def]
      simp only [if_neg hquote, if_neg hbackslash, if_neg hcontrol]
      exact ih (Nat.lt_of_succ_lt_succ hsteps)
  | @escape mark source hmark _ ih =>
    cases steps with
    | nil => cases hsteps
    | cons step steps =>
      rw [List.length_cons, List.length_append, List.length_cons] at hsteps
      rw [List.cons_append, List.append_assoc, Json.skipString.eq_def]
      simp only [if_neg (show backslash ≠ quote by decide), if_true]
      cases hmark with
      | short hb =>
        simp only [List.cons_append, List.nil_append, if_pos hb]
        exact ih (by omega)
      | number hdigits =>
        simp only [List.cons_append, hexQuad_eq_ok_iff.mpr ⟨_, rfl, hdigits⟩, if_true]
        rw [if_neg (by decide)]
        exact ih (by omega)

end

end IdentityGateway.Json
