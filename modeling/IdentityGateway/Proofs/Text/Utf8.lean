import IdentityGateway.Json.Scan

/-!
# Texts as bytes

The bytes of a text are those of its characters in UTF-8, and they are read back as the text. A
character of ASCII is one byte, and every byte of another character is beyond ASCII, so that no
mark of a format is ever mistaken for a part of a character.
-/

namespace IdentityGateway

namespace Text

/-- The bytes of some characters. -/
def utf8 (cs : List Char) : List UInt8 :=
  cs.flatMap String.utf8EncodeChar

/-- No characters are no bytes. -/
@[simp] theorem utf8_nil : utf8 [] = [] := rfl

/-- A character comes before the characters after it. -/
theorem utf8_cons (c : Char) (cs : List Char) :
    utf8 (c :: cs) = String.utf8EncodeChar c ++ utf8 cs := rfl

/-- Characters after others are bytes after others. -/
@[simp] theorem utf8_append (cs ds : List Char) : utf8 (cs ++ ds) = utf8 cs ++ utf8 ds :=
  List.flatMap_append

/-- A character of ASCII is one byte. -/
theorem utf8EncodeChar_of_ascii {c : Char} (hc : c.toNat < 0x80) :
    String.utf8EncodeChar c = [UInt8.ofNat c.toNat] := by
  have hshort : c.val.toNat ≤ 0x7f := Nat.le_of_lt_succ hc
  rw [String.utf8EncodeChar, if_pos hshort]
  rfl

/-- A number of eight bits from 128 on is such a byte. -/
theorem le_byte_ofNat {n : Nat} (hlow : 0x80 ≤ n) (hhigh : n < 0x100) : 0x80 ≤ UInt8.ofNat n := by
  rw [UInt8.le_iff_toNat_le, UInt8.toNat_ofNat_of_lt' hhigh]
  exact hlow

/-- Every byte of a character beyond ASCII is beyond ASCII. -/
theorem le_of_mem_utf8EncodeChar {c : Char} (hc : 0x80 ≤ c.toNat) {b : UInt8}
    (hb : b ∈ String.utf8EncodeChar c) : 0x80 ≤ b := by
  have hlong : ¬ c.val.toNat ≤ 0x7f := Nat.not_le.mpr hc
  simp only [String.utf8EncodeChar, if_neg hlong] at hb
  -- two, three or four bytes, each a remainder after a fixed summand of at least 128
  split at hb
  · simp only [List.mem_cons, List.not_mem_nil, or_false] at hb
    rcases hb with rfl | rfl <;> exact le_byte_ofNat (by omega) (by omega)
  · split at hb
    · simp only [List.mem_cons, List.not_mem_nil, or_false] at hb
      rcases hb with rfl | rfl | rfl <;> exact le_byte_ofNat (by omega) (by omega)
    · simp only [List.mem_cons, List.not_mem_nil, or_false] at hb
      rcases hb with rfl | rfl | rfl | rfl <;> exact le_byte_ofNat (by omega) (by omega)

/-- The bytes of an array from a place on come after those before them. -/
theorem toList_loop_eq (bytes : ByteArray) (i : Nat) (acc : List UInt8) :
    ByteArray.toList.loop bytes i acc = acc.reverse ++ bytes.data.toList.drop i := by
  induction i, acc using ByteArray.toList.loop.induct bytes with
  | case1 i acc hi ih =>
    have hlength : i < bytes.data.toList.length := by simpa using hi
    have hget : bytes.get! i = bytes.data.toList[i] := getElem!_pos bytes.data i hi
    rw [ByteArray.toList.loop, if_pos hi, ih, List.drop_eq_getElem_cons hlength, hget]
    simp
  | case2 i acc hi =>
    have hlength : bytes.data.toList.length ≤ i := by simpa using hi
    rw [ByteArray.toList.loop, if_neg hi, List.drop_eq_nil_of_le hlength, List.append_nil]

/-- The bytes of a text are those of its characters. -/
theorem toList_toUTF8 (s : String) : s.toUTF8.toList = utf8 s.toList := by
  calc s.toUTF8.toList
      = s.toByteArray.data.toList := toList_loop_eq _ 0 []
    _ = s.toList.utf8Encode.data.toList := by rw [String.utf8Encode_toList]
    _ = utf8 s.toList := List.toList_data_toByteArray

end Text

/-- The bytes of a text are read back as the text. -/
theorem Json.decodeUtf8_utf8 (s : String) : Json.decodeUtf8 (Text.utf8 s.toList) = some s := by
  have hbytes : ⟨(Text.utf8 s.toList).toArray⟩ = s.toByteArray := by
    rw [← String.utf8Encode_toList]
    exact ByteArray.ext List.data_toByteArray.symm
  rw [Json.decodeUtf8, hbytes]
  exact dif_pos s.isValidUTF8

/-- Different texts have different bytes. -/
theorem Text.toList_toUTF8_inj {s t : String} : s.toUTF8.toList = t.toUTF8.toList ↔ s = t := by
  constructor
  · intro hbytes
    rw [toList_toUTF8, toList_toUTF8] at hbytes
    exact Option.some.inj ((Json.decodeUtf8_utf8 s).symm.trans (hbytes ▸ Json.decodeUtf8_utf8 t))
  · rintro rfl
    rfl

end IdentityGateway
