import IdentityGateway.Proofs.Credential
import IdentityGateway.Proofs.Text.Separator
import IdentityGateway.Settings

/-!
# Accepted settings

Settings are accepted exactly if each of them is good by itself and production names a remote core.
The name of the cookie is then one under which tokens can be sent. The listed origins are what
stands between the commas of a text.
-/

namespace IdentityGateway.Settings

open Credential (Cookie)

/-- Settings are read one by one from what is found under their names. -/
structure ReadFrom (lookup : String → Option String) (settings : Settings) : Prop where
  port : portOf (lookup "PORT") = .ok settings.port
  deployment : Deployment.ofSetting (lookup "APP_ENV") = settings.deployment
  allowedOrigins : originsOf (lookup "CORS_ALLOWED_ORIGINS") = settings.allowedOrigins
  cookieName : cookieNameOf (lookup "AUTH_COOKIE_NAME") = .ok settings.cookieName
  coreUrl : coreUrlOf (lookup "AUTH_CORE_URL") = .ok settings.coreUrl
  /-- Production names a remote core. -/
  remote : settings.deployment.isProduction = true → settings.coreUrl ≠ none
  grantMode : grantModeOf (lookup "AUTH_ISSUE_MODE") = .ok settings.grantMode
  accessLifetime :
    accessLifetimeOf (lookup "ACCESS_TOKEN_TTL_SECONDS") = .ok settings.accessLifetime
  requestTimeout :
    requestTimeoutOf (lookup "REQUEST_TIMEOUT_SECONDS") = .ok settings.requestTimeout

section

variable {α β : Type} {lookup : String → Option String} {settings : Settings}

/-- What comes after a check is reached only if the check succeeds. -/
theorem bind_eq_ok_iff {r : Except SettingsError α} {f : α → Except SettingsError β} {b : β} :
    (r >>= f) = .ok b ↔ ∃ a, r = .ok a ∧ f a = .ok b := by
  cases r with
  | error e => simp [bind, Except.bind]
  | ok a => simp [bind, Except.bind]

/-- Accepted settings were read one by one. -/
theorem ReadFrom.of_ofLookup (h : ofLookup lookup = .ok settings) : ReadFrom lookup settings := by
  simp only [ofLookup] at h
  obtain ⟨port, hport, hrest⟩ := bind_eq_ok_iff.mp h
  obtain ⟨cookieName, hcookieName, hrest⟩ := bind_eq_ok_iff.mp hrest
  obtain ⟨coreUrl, hcoreUrl, hrest⟩ := bind_eq_ok_iff.mp hrest
  split at hrest
  · -- in production without a remote core nothing is read any more
    cases hrest
  · next hremote =>
    obtain ⟨grantMode, hgrantMode, hrest⟩ := bind_eq_ok_iff.mp hrest
    obtain ⟨accessLifetime, haccessLifetime, hrest⟩ := bind_eq_ok_iff.mp hrest
    obtain ⟨requestTimeout, hrequestTimeout, hrest⟩ := bind_eq_ok_iff.mp hrest
    cases hrest
    refine ⟨hport, rfl, rfl, hcookieName, hcoreUrl, ?_, hgrantMode, haccessLifetime,
      hrequestTimeout⟩
    rintro hproduction rfl
    exact hremote (by rw [hproduction]; rfl)

/-- An accepted cookie name is trimmed and usable. -/
theorem cookieNameOf_eq_ok {value : Option String} {name : String}
    (h : cookieNameOf value = .ok name) :
    Text.trim name = name ∧ usableCookieName name = true := by
  simp only [cookieNameOf] at h
  split at h
  · next husable =>
    obtain rfl := Except.ok.inj h
    refine ⟨?_, husable⟩
    cases value with
    | none => decide
    | some text =>
      simp only [Option.map_some, Option.getD_some, Text.trim, String.toList_ofList,
        Text.trimChars_trimChars]
  · cases h

/-- The cookie name of accepted settings has no blank margins. -/
theorem ReadFrom.trim_cookieName (h : ReadFrom lookup settings) :
    Text.trim settings.cookieName = settings.cookieName :=
  (cookieNameOf_eq_ok h.cookieName).1

/-- Under the cookie name of accepted settings any token without a semicolon can be sent. -/
theorem ReadFrom.clean_cookie (h : ReadFrom lookup settings) {token : String}
    (htoken : ';' ∉ token.toList) : Cookie.Clean ⟨settings.cookieName, some token⟩ := by
  have husable := (cookieNameOf_eq_ok h.cookieName).2
  simp only [usableCookieName, Bool.and_eq_true, List.all_eq_true, bne_iff_ne] at husable
  have hname := husable.2
  constructor
  case equals => exact fun hmem => (hname _ hmem).1.2 rfl
  case semicolon =>
    intro hmem
    rcases List.mem_append.mp hmem with hmem | hmem
    · exact (hname _ hmem).1.1 rfl
    · rcases List.mem_cons.mp hmem with hequals | hmem
      · exact absurd hequals (by decide)
      · exact htoken hmem

/-! ## Listed origins -/

/-- A comma-separated text names an entry: one of the pieces between its commas is the entry with
nothing but blanks around it. -/
structure Names (text entry : String) : Prop where
  nonempty : entry ≠ ""
  trimmed : Text.Trimmed entry.toList
  stands : ∃ pieces, [','].intercalate pieces = text.toList ∧ (∀ piece ∈ pieces, ',' ∉ piece) ∧
    ∃ before after, (∀ c ∈ before, Text.isBlank c = true) ∧ (∀ c ∈ after, Text.isBlank c = true) ∧
      before ++ entry.toList ++ after ∈ pieces

/-- The listed origins are the entries that the text names. -/
theorem mem_originsOf_iff {value : Option String} {entry : String} :
    entry ∈ originsOf value ↔ Names (value.getD "") entry := by
  have hempty : (!entry.isEmpty) = true ↔ entry ≠ "" := by simp
  simp only [originsOf, List.mem_filter, List.mem_map, hempty]
  constructor
  · rintro ⟨⟨piece, hpiece, rfl⟩, hnonempty⟩
    obtain ⟨pieces, hjoined, hpieces, hmem⟩ := Text.mem_splitAt_iff.mp hpiece
    obtain ⟨before, after, hbefore, hafter, hsplit⟩ := Text.exists_margins piece
    refine ⟨hnonempty, ?_, pieces, hjoined, hpieces, before, after, hbefore, hafter, ?_⟩
    · rw [String.toList_ofList]
      exact Text.trimmed_trimChars piece
    · rw [String.toList_ofList, ← hsplit]
      exact hmem
  · rintro ⟨hnonempty, htrimmed, pieces, hjoined, hpieces, before, after, hbefore, hafter, hmem⟩
    refine ⟨⟨before ++ entry.toList ++ after, ?_, ?_⟩, hnonempty⟩
    · exact Text.mem_splitAt_iff.mpr ⟨pieces, hjoined, hpieces, hmem⟩
    · rw [Text.trimChars_margins hbefore hafter htrimmed, String.ofList_toList]

end

end IdentityGateway.Settings
