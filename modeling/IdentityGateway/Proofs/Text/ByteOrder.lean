import IdentityGateway.Proofs.Text.Utf8
import Mathlib.Data.String.Basic

/-!
# The order of texts

Texts are in the order of their characters. This is the order of their bytes, since already the
first byte in which two characters differ is the smaller one for the smaller character, and no
character starts with all bytes of another.
-/

namespace IdentityGateway.Text

section

variable {bs cs : List UInt8}

/-- The first bytes of two lists are compared as the numbers that they were made of. -/
theorem ofNat_cons_lt_iff {m n : Nat} (hm : m < 0x100) (hn : n < 0x100) :
    UInt8.ofNat m :: bs < UInt8.ofNat n :: cs ↔ m < n ∨ m = n ∧ bs < cs := by
  rw [List.cons_lt_cons_iff, UInt8.lt_iff_toNat_lt, ← UInt8.toNat_inj,
    UInt8.toNat_ofNat_of_lt' hm, UInt8.toNat_ofNat_of_lt' hn]

/-- A smaller character has the smaller bytes, whatever follows them. -/
theorem utf8EncodeChar_append_lt {c d : Char} (h : c < d) (bs cs : List UInt8) :
    String.utf8EncodeChar c ++ bs < String.utf8EncodeChar d ++ cs := by
  have hcode : c.val.toNat < d.val.toNat := h
  have hlast : d.val.toNat < 0x110000 := by rcases d.valid with hlow | hhigh <;> omega
  -- behind its first byte a character is written in base 64
  have htwo : ∀ n : Nat, n / 4096 = n / 64 / 64 := by omega
  have hthree : ∀ n : Nat, n / 262144 = n / 64 / 64 / 64 := by omega
  simp only [String.utf8EncodeChar]
  -- the cases are the numbers of bytes of both characters
  split_ifs <;>
    simp (disch := omega) only [List.cons_append, List.nil_append, ofNat_cons_lt_iff, htwo,
      hthree] <;>
    omega

end

private theorem utf8_lt_utf8 {cs ds : List Char} (h : cs < ds) : utf8 cs < utf8 ds := by
  induction h with
  | @nil d ds =>
    obtain ⟨b, bs, hbytes⟩ := List.exists_cons_of_ne_nil (@String.utf8EncodeChar_ne_nil d)
    rw [utf8_cons, hbytes]
    exact List.nil_lt_cons _ _
  | rel hchar => exact utf8EncodeChar_append_lt hchar _ _
  | cons _ ih => exact List.append_left_lt ih

/-- Texts are in the order of their bytes. -/
theorem toList_toUTF8_lt_iff {s t : String} : s.toUTF8.toList < t.toUTF8.toList ↔ s < t := by
  have hbytes : ∀ {s t : String}, s < t → s.toUTF8.toList < t.toUTF8.toList := by
    intro s t h
    rw [toList_toUTF8, toList_toUTF8]
    exact utf8_lt_utf8 (String.lt_iff_toList_lt.mp h)
  refine ⟨fun h => ?_, hbytes⟩
  rcases lt_trichotomy s t with hlt | rfl | hgt
  · exact hlt
  · exact absurd h (List.lt_irrefl _)
  · exact absurd h (List.lt_asymm (hbytes hgt))

end IdentityGateway.Text
