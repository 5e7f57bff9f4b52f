import Mathlib.Data.Bool.AllAny
import IdentityGateway.Proofs.Credential.Pairs
import IdentityGateway.Proofs.Settings
import IdentityGateway.Proofs.Text.Utf8

/-!
# Cookies under accepted names

A header of cookies is read only if it is text. Under an accepted name of such characters every
token of visible ASCII without a semicolon can be sent as a cookie. An accepted name may have other
characters as well, and under such a name no cookie is ever found.
-/

namespace IdentityGateway

namespace Http

/-- A character of header values that are text: a tab, or one of ASCII that can be printed. -/
def IsTextChar (c : Char) : Prop :=
  c.toNat = 9 ∨ 0x20 ≤ c.toNat ∧ c.toNat < 0x7F

instance (c : Char) : Decidable (IsTextChar c) :=
  inferInstanceAs (Decidable (_ ∨ _))

namespace FieldValue

variable {value : FieldValue} {text : String} {c : Char} {cs : List Char}

/-- The text of a value has only such characters. -/
theorem isTextChar_of_mem (htext : value.text? = some text) (hc : c ∈ text.toList) :
    IsTextChar c := by
  have hascii : ∀ n < 0x7F, n = 9 ∨ 0x20 ≤ n ∧ n < 0x7F → IsTextChar (Char.ofNat n) := by decide
  rw [FieldValue.text?] at htext
  split at htext
  · next hall =>
    obtain rfl := Option.some.inj htext
    rw [String.toList_ofList, List.mem_map] at hc
    obtain ⟨b, hb, rfl⟩ := hc
    have hbyte := Credential.isTextByte_iff.mp (List.all_eq_true.mp hall b hb)
    exact hascii b.toNat (by omega) hbyte
  · cases htext

/-- Such a character is one byte of text, which has its code. -/
theorem utf8EncodeChar_of_isTextChar (hc : IsTextChar c) :
    ∃ b, String.utf8EncodeChar c = [b] ∧ isTextByte b = true ∧ Char.ofNat b.toNat = c := by
  have hcode : c.toNat = 9 ∨ 0x20 ≤ c.toNat ∧ c.toNat < 0x7F := hc
  have hascii : c.toNat < 0x80 := by omega
  have hbyte : (UInt8.ofNat c.toNat).toNat = c.toNat :=
    UInt8.toNat_ofNat_of_lt' (Nat.lt_trans hascii (by decide))
  refine ⟨UInt8.ofNat c.toNat, Text.utf8EncodeChar_of_ascii hascii, ?_, ?_⟩
  · rw [Credential.isTextByte_iff, hbyte]
    exact hcode
  · rw [hbyte, Char.ofNat_toNat]

/-- Bytes of such characters are text, which has the characters. -/
theorem text?_utf8 (hcs : ∀ c ∈ cs, IsTextChar c) :
    FieldValue.text? (Text.utf8 cs) = some (String.ofList cs) := by
  have hbytes : (Text.utf8 cs).all isTextByte = true ∧
      ((Text.utf8 cs).map fun b => Char.ofNat b.toNat) = cs := by
    induction cs with
    | nil => exact ⟨rfl, rfl⟩
    | cons c cs ih =>
      obtain ⟨hc, hrest⟩ := List.forall_mem_cons.mp hcs
      obtain ⟨b, hb, htext, hcode⟩ := utf8EncodeChar_of_isTextChar hc
      obtain ⟨hall, hmap⟩ := ih hrest
      rw [Text.utf8_cons, hb, List.singleton_append, List.all_cons, List.map_cons, htext, hall,
        hcode, hmap]
      exact ⟨rfl, rfl⟩
  rw [FieldValue.text?, if_pos hbytes.1, hbytes.2]

end FieldValue

end Http

namespace Credential

open Http (FieldValue Headers IsTextChar)

variable {headers : Headers} {name token : String}

/-- The name of a cookie that is found in a piece of a header is in the piece. -/
theorem name_subset_of_pairValue? {pair value : List Char}
    (h : pairValue? name pair = some value) : name.toList ⊆ pair := by
  simp only [pairValue?] at h
  split at h
  · cases h
  · split at h
    · next hname =>
      rw [← hname]
      exact fun c hc => (List.dropWhile_sublist _).subset
        ((List.takeWhile_sublist _).subset (Text.trimChars_subset _ hc))
    · cases h

/-- The name of a cookie that is found has only characters of text. -/
theorem isTextChar_of_cookie? (h : cookie? headers name = some token) :
    ∀ c ∈ name.toList, IsTextChar c := by
  intro c hc
  rw [cookie?_eq, Option.map_eq_some_iff] at h
  obtain ⟨found, hfound, -⟩ := h
  obtain ⟨value, -, hvalue⟩ := List.exists_of_findSome?_eq_some hfound
  obtain ⟨text, htext, hpieces⟩ := Option.bind_eq_some_iff.mp hvalue
  obtain ⟨piece, hpiece, hpair⟩ := List.exists_of_findSome?_eq_some hpieces
  exact FieldValue.isTextChar_of_mem htext
    (Text.subset_of_mem_splitAt hpiece (name_subset_of_pairValue? hpair hc))

/-! ## Accepted names -/

/-- A token of visible ASCII without a semicolon. -/
def Sendable (token : String) : Prop :=
  ∀ c ∈ token.toList, 0x21 ≤ c.toNat ∧ c.toNat < 0x7F ∧ c ≠ ';'

/-- What a client sends that has a token in one cookie, and nothing else. -/
def loneCookie (name token : String) : Headers :=
  [("cookie", Text.utf8 (name ++ "=" ++ token).toList)]

/-- A request with nothing but a cookie whose characters are those of text carries the cookie. -/
theorem carriesCookie_loneCookie (hname : ∀ c ∈ name.toList, IsTextChar c)
    (htoken : ∀ c ∈ token.toList, IsTextChar c) (hclean : Cookie.Clean ⟨name, some token⟩) :
    CarriesCookie (loneCookie name token) name token := by
  have hchars : (name ++ "=" ++ token).toList = Cookie.line [⟨name, some token⟩] := by
    simp [Cookie.line, Cookie.chars]
  have htext : ∀ c ∈ (name ++ "=" ++ token).toList, IsTextChar c := by
    intro c hc
    simp only [String.toList_append, List.mem_append] at hc
    rcases hc with (hc | hc) | hc
    · exact hname c hc
    · obtain rfl := List.mem_singleton.mp hc
      decide
    · exact htoken c hc
  refine ⟨[], _, [], [], [], rfl, ⟨List.forall_mem_singleton.mpr hclean, ?_⟩,
    List.forall_mem_nil _, List.forall_mem_nil _⟩
  rw [FieldValue.text?_utf8 htext, hchars]
  rfl

end Credential

namespace Settings

open Credential (Sendable extract loneCookie isTextChar_of_cookie?)
open Http (Headers IsTextChar)

variable {lookup : String → Option String} {settings : Settings}

/-- **Cookies under accepted names.** If the name in accepted settings has only characters of text,
every token of visible ASCII without a semicolon that is sent under it is found. If it has any other
character, no cookie is ever found. -/
theorem extract_accepted (h : ofLookup lookup = .ok settings) :
    ((∀ c ∈ settings.cookieName.toList, IsTextChar c) → ∀ token, Sendable token →
      extract (loneCookie settings.cookieName token) settings.cookieName =
        some ⟨token, .cookie⟩) ∧
    ((∃ c ∈ settings.cookieName.toList, ¬ IsTextChar c) → ∀ (headers : Headers) (token : String),
      extract headers settings.cookieName ≠ some ⟨token, .cookie⟩) := by
  have hread := ReadFrom.of_ofLookup h
  constructor
  · intro hname token htoken
    have htext : ∀ c ∈ token.toList, IsTextChar c := by
      intro c hc
      obtain ⟨hlow, hhigh, -⟩ := htoken c hc
      exact .inr ⟨by omega, hhigh⟩
    have hclean := hread.clean_cookie fun hmem => (htoken ';' hmem).2.2 rfl
    have hcarries := Credential.carriesCookie_loneCookie hname htext hclean
    rw [extract, hcarries.cookie?_eq_some hread.trim_cookieName]
    rfl
  · rintro ⟨c, hc, hother⟩ headers token hextract
    rw [extract] at hextract
    split at hextract
    · cases hextract
    · obtain ⟨found, hfound, -⟩ := Option.map_eq_some_iff.mp hextract
      exact hother (isTextChar_of_cookie? hfound c hc)

/-! ## Two names -/

/-- An environment in which everything is left to the defaults except the name of the cookie. -/
def namedCookie (name key : String) : Option String :=
  if key = "AUTH_COOKIE_NAME" then some name else none

/-- What the gateway makes of that environment, if it accepts the name. -/
def withCookieName (name : String) : Settings where
  port := 3000
  deployment := .development
  allowedOrigins := []
  cookieName := name
  coreUrl := none
  grantMode := .tokenPair
  accessLifetime := 3600
  requestTimeout := 30

/-- Every token is found under `sid`, and none under `sessão`. -/
theorem extract_accepted_both :
    (∀ token, Sendable token →
      extract (loneCookie "sid" token) "sid" = some ⟨token, .cookie⟩) ∧
    ∀ headers token, extract headers "sessão" ≠ some ⟨token, .cookie⟩ := by
  have hsid : ofLookup (namedCookie "sid") = .ok (withCookieName "sid") := by decide +kernel
  have hsessao : ofLookup (namedCookie "sessão") = .ok (withCookieName "sessão") := by
    decide +kernel
  constructor
  · exact (extract_accepted hsid).1 (List.all_iff_forall_prop.mp (by decide))
  · exact (extract_accepted hsessao).2 ⟨'ã', by decide, by decide⟩

/-- The name `sessão` is accepted and a header may hold a cookie of the name, which is not found. -/
theorem extract_letterBeyondAscii :
    ofLookup (namedCookie "sessão") = .ok (withCookieName "sessão") ∧
    Sendable "v" ∧
    (∀ field ∈ loneCookie "sessão" "v", field.2.all Http.isValueByte = true) ∧
    extract (loneCookie "sessão" "v") "sessão" = none := by
  refine ⟨by decide +kernel, ?_, by decide +kernel, by decide +kernel⟩
  intro c hc
  obtain rfl := List.mem_singleton.mp hc
  decide

end Settings

end IdentityGateway
