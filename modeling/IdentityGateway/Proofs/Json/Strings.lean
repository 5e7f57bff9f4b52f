import IdentityGateway.Json.Printer
import IdentityGateway.Proofs.Json.Spelling

/-!
# Strings written and read

A written string spells the string, whatever its characters are, and so is read back: an escape
stands for the character it was written for, and every other character is neither a quote nor a
backslash nor a control in any of its bytes.
-/

namespace IdentityGateway.Json

open Byte

/-! ## Escapes -/

/-- A hexadecimal digit is read as its value. -/
theorem hexValue?_hexDigit {n : Nat} (hn : n < 16) :
    hexValue? (UInt8.ofNat (hexDigit n).toNat) = some n := by
  revert n
  decide

/-- Hexadecimal digits are characters of ASCII. -/
theorem toNat_hexDigit_lt {n : Nat} (hn : n < 16) : (hexDigit n).toNat < 0x80 := by
  revert n
  decide

/-- A control that is written by its number is an escape for the control. -/
theorem escape_control {c : Char} (hc : c.toNat < 0x20) :
    Escape (Text.utf8 ['u', '0', '0', hexDigit (c.toNat / 16), hexDigit (c.toNat % 16)])
      (String.utf8EncodeChar c) := by
  have hhigh : c.toNat / 16 < 16 := by omega
  have hlow : c.toNat % 16 < 16 := by omega
  have hbytes : Text.utf8 ['u', '0', '0', hexDigit (c.toNat / 16), hexDigit (c.toNat % 16)] =
      [smallU, zero, zero, UInt8.ofNat (hexDigit (c.toNat / 16)).toNat,
        UInt8.ofNat (hexDigit (c.toNat % 16)).toNat] := by
    simp only [Text.utf8_cons, Text.utf8_nil, List.append_nil,
      Text.utf8EncodeChar_of_ascii (toNat_hexDigit_lt hhigh),
      Text.utf8EncodeChar_of_ascii (toNat_hexDigit_lt hlow)]
    rfl
  have hzero : hexValue? zero = some 0 := rfl
  have hquad := Quad.digits hzero hzero (hexValue?_hexDigit hhigh) (hexValue?_hexDigit hlow)
  have hvalue : ((0 * 16 + 0) * 16 + c.toNat / 16) * 16 + c.toNat % 16 = c.toNat := by omega
  rw [hvalue] at hquad
  have hescape := Escape.number hquad (.inl (by omega))
  rwa [codePointBytes, Char.ofNat_toNat, ← hbytes] at hescape

/-- A character is written as an escape for the character, or it needs none. -/
theorem escapedChar_cases (c : Char) :
    (∃ mark, escapedChar c = '\\' :: mark ∧
      Escape (Text.utf8 mark) (String.utf8EncodeChar c)) ∨
    (escapedChar c = [c] ∧ c ≠ '"' ∧ c ≠ '\\' ∧ 0x20 ≤ c.toNat) := by
  unfold escapedChar
  by_cases hquote : c = '"'
  · exact .inl ⟨['"'], if_pos hquote, by rw [hquote]; exact .quote⟩
  rw [if_neg hquote]
  by_cases hbackslash : c = '\\'
  · exact .inl ⟨['\\'], if_pos hbackslash, by rw [hbackslash]; exact .backslash⟩
  rw [if_neg hbackslash]
  by_cases hbackspace : c = '\x08'
  · exact .inl ⟨['b'], if_pos hbackspace, by rw [hbackspace]; exact .backspace⟩
  rw [if_neg hbackspace]
  by_cases hfeed : c = '\x0c'
  · exact .inl ⟨['f'], if_pos hfeed, by rw [hfeed]; exact .formFeed⟩
  rw [if_neg hfeed]
  by_cases hline : c = '\n'
  · exact .inl ⟨['n'], if_pos hline, by rw [hline]; exact .lineFeed⟩
  rw [if_neg hline]
  by_cases hreturn : c = '\r'
  · exact .inl ⟨['r'], if_pos hreturn, by rw [hreturn]; exact .carriageReturn⟩
  rw [if_neg hreturn]
  by_cases htab : c = '\t'
  · exact .inl ⟨['t'], if_pos htab, by rw [htab]; exact .tab⟩
  rw [if_neg htab]
  by_cases hcontrol : c.toNat < 0x20
  · exact .inl ⟨_, if_pos hcontrol, escape_control hcontrol⟩
  · exact .inr ⟨if_neg hcontrol, hquote, hbackslash, Nat.le_of_not_lt hcontrol⟩

/-! ## Bytes that stand for themselves -/

/-- A character that needs no escape has only bytes that stand for themselves. -/
theorem isPlain_of_mem_utf8EncodeChar {c : Char} (hquote : c ≠ '"') (hbackslash : c ≠ '\\')
    (hcontrol : 0x20 ≤ c.toNat) {b : UInt8} (hb : b ∈ String.utf8EncodeChar c) : IsPlain b := by
  by_cases hascii : c.toNat < 0x80
  · rw [Text.utf8EncodeChar_of_ascii hascii, List.mem_singleton] at hb
    have hvalue : b.toNat = c.toNat := by
      rw [hb, UInt8.toNat_ofNat_of_lt' (Nat.lt_trans hascii (by decide))]
    refine ⟨?_, ?_, ?_⟩
    · rintro rfl
      exact hquote (Char.toNat_inj.mp hvalue.symm)
    · rintro rfl
      exact hbackslash (Char.toNat_inj.mp hvalue.symm)
    · rw [UInt8.lt_iff_toNat_lt, hvalue]
      exact Nat.not_lt.mpr hcontrol
  · have hlarge := Text.le_of_mem_utf8EncodeChar (Nat.le_of_not_lt hascii) hb
    refine ⟨?_, ?_, ?_⟩
    · rintro rfl
      exact absurd hlarge (by decide)
    · rintro rfl
      exact absurd hlarge (by decide)
    · intro hsmall
      exact absurd (UInt8.lt_of_le_of_lt hlarge hsmall) (by decide)

/-! ## Strings -/

/-- A written character stands for the character. -/
theorem StandsFor.escapedChar {source out : List UInt8} (h : StandsFor source out) (c : Char) :
    StandsFor (Text.utf8 (Json.escapedChar c) ++ source) (String.utf8EncodeChar c ++ out) := by
  rcases escapedChar_cases c with ⟨mark, hescaped, hmark⟩ | ⟨hplain, hquote, hbackslash, hcontrol⟩
  · rw [hescaped]
    exact .escape hmark h
  · rw [hplain, Text.utf8_cons, Text.utf8_nil, List.append_nil]
    exact h.append_plain fun b hb => isPlain_of_mem_utf8EncodeChar hquote hbackslash hcontrol hb

/-- Written characters stand for the characters. -/
theorem standsFor_escaped (cs : List Char) :
    StandsFor (Text.utf8 (cs.flatMap escapedChar)) (Text.utf8 cs) := by
  induction cs with
  | nil => exact .nil
  | cons c cs ih =>
    rw [List.flatMap_cons, Text.utf8_append]
    exact ih.escapedChar c

/-- A written string is read back. -/
theorem string_escaped (s : String) (rest : List UInt8) :
    string (Text.utf8 (s.toList.flatMap escapedChar) ++ quote :: rest) = .ok (s, rest) :=
  string_eq_ok_iff.mpr ⟨_, rfl, standsFor_escaped s.toList⟩

end IdentityGateway.Json
