import IdentityGateway.Proofs.Settings
import IdentityGateway.Proofs.Text.Case
import IdentityGateway.Proofs.Text.Decimal
import IdentityGateway.Startup

/-!
# Which settings are accepted

Settings are refused exactly if they do not meet one of their requirements, and the error is that of
the first one, in a fixed order. Accepted settings are what their texts stand for, with a default
for each text that is absent. The core in memory is chosen only outside of production.
-/

namespace IdentityGateway.Settings

/-! ## Texts of settings -/

/-- The texts of a port. Blanks around the number are not forgiven. -/
def PortText (text : String) (port : Nat) : Prop :=
  Text.IsNumeral text port ∧ port < Nat.pow 2 16

/-- The texts of a cookie name: the name, with blanks around it. -/
def CookieNameText (text name : String) : Prop :=
  Text.trim text = name ∧ name ≠ "" ∧ ';' ∉ name.toList ∧ '=' ∉ name.toList ∧ ' ' ∉ name.toList

/-- The texts of the address of a remote core: of none if they are blank, and else the address with
blanks around it. -/
inductive CoreUrlText (text : String) : Option String → Prop
  | blank (hblank : Text.trim text = "") : CoreUrlText text none
  | address (hsome : Text.trim text ≠ "")
      (hscheme : "http://".toList <+: (Text.trim text).toList ∨
        "https://".toList <+: (Text.trim text).toList) :
      CoreUrlText text (some (Text.trim text))

/-- The texts of a grant mode: one of its names in any case, with blanks around it. -/
inductive GrantModeText (text : String) : GrantMode → Prop
  | session (hname : Text.InAnyCase (Text.trim text) "session") : GrantModeText text .session
  | tokenPair {name : String} (hmem : name ∈ ["token", "token_pair", "api"])
      (hname : Text.InAnyCase (Text.trim text) name) : GrantModeText text .tokenPair

/-- The texts of a lifetime of access tokens, with blanks around the number. -/
def LifetimeText (text : String) (seconds : Nat) : Prop :=
  Text.IsNumeral (Text.trim text) seconds ∧ seconds < Nat.pow 2 64

/-- The texts of a time limit, with blanks around the number. -/
def TimeoutText (text : String) (seconds : Nat) : Prop :=
  LifetimeText text seconds ∧ 0 < seconds

/-- The setting of the deployment is one of the two names of production, whose letters may be
capitals. -/
def NamesProduction (lookup : String → Option String) : Prop :=
  ∃ text, lookup "APP_ENV" = some text ∧
    (Text.InAnyCase text "production" ∨ Text.InAnyCase text "prod")

/-- A text lists entries: they are the pieces between its commas in order, without the blanks around
them and without those that are blank. -/
def Lists (text : String) (entries : List String) : Prop :=
  ∃ pieces : List (List Char), [','].intercalate pieces = text.toList ∧
    (∀ piece ∈ pieces, ',' ∉ piece) ∧
    entries = (pieces.map fun piece => Text.trim (String.ofList piece)).filter (· ≠ "")

/-! ## Requirements -/

/-- A setting that is found has a text of some kind. -/
def Good {α : Type} (Reads : String → α → Prop) (found : Option String) : Prop :=
  ∀ text, found = some text → ∃ a, Reads text a

/-- A setting stands for what its text is read as, and for a default if it is absent. -/
inductive StandsFor {α : Type} (Reads : String → α → Prop) (default : α) :
    Option String → α → Prop
  | absent : StandsFor Reads default none default
  | given {text : String} {a : α} (h : Reads text a) : StandsFor Reads default (some text) a

/-- What is required of settings. -/
inductive Requirement where
  | port
  | cookieName
  | coreUrl
  /-- The core in memory is for development only. -/
  | remoteCore
  | grantMode
  | accessLifetime
  | requestTimeout
  deriving DecidableEq

namespace Requirement

/-- The requirements in the order in which they are checked. -/
def inOrder : List Requirement :=
  [port, cookieName, coreUrl, remoteCore, grantMode, accessLifetime, requestTimeout]

/-- The requirements that are checked before one. -/
def earlier (r : Requirement) : List Requirement :=
  inOrder.takeWhile (· ≠ r)

/-- A requirement is met by the settings that are found. -/
def Met (lookup : String → Option String) : Requirement → Prop
  | port => Good PortText (lookup "PORT")
  | cookieName => Good CookieNameText (lookup "AUTH_COOKIE_NAME")
  | coreUrl => Good CoreUrlText (lookup "AUTH_CORE_URL")
  | remoteCore => NamesProduction lookup →
      ∃ text, lookup "AUTH_CORE_URL" = some text ∧ Text.trim text ≠ ""
  | grantMode => Good GrantModeText (lookup "AUTH_ISSUE_MODE")
  | accessLifetime => Good LifetimeText (lookup "ACCESS_TOKEN_TTL_SECONDS")
  | requestTimeout => Good TimeoutText (lookup "REQUEST_TIMEOUT_SECONDS")

/-- The error of settings that do not meet a requirement. -/
def error : Requirement → SettingsError
  | port => .invalid "PORT"
  | cookieName => .invalid "AUTH_COOKIE_NAME"
  | coreUrl => .invalid "AUTH_CORE_URL"
  | remoteCore => .missing "AUTH_CORE_URL"
  | grantMode => .invalid "AUTH_ISSUE_MODE"
  | accessLifetime => .invalid "ACCESS_TOKEN_TTL_SECONDS"
  | requestTimeout => .invalid "REQUEST_TIMEOUT_SECONDS"

/-- All that is checked before a requirement is met. -/
def Reached (lookup : String → Option String) (r : Requirement) : Prop :=
  ∀ other ∈ r.earlier, other.Met lookup

/-- A requirement is the first one that is not met. -/
structure FirstUnmet (lookup : String → Option String) (r : Requirement) : Prop where
  reached : r.Reached lookup
  unmet : ¬ r.Met lookup

/-- Of two requirements one is checked before the other. -/
theorem eq_or_earlier (r s : Requirement) : r = s ∨ r ∈ s.earlier ∨ s ∈ r.earlier := by
  cases r <;> cases s <;> decide

/-- There is only one first requirement that is not met. -/
theorem FirstUnmet.unique {lookup : String → Option String} {r s : Requirement}
    (hr : FirstUnmet lookup r) (hs : FirstUnmet lookup s) : r = s := by
  rcases eq_or_earlier r s with heq | hearlier | hearlier
  · exact heq
  · exact absurd (hs.reached r hearlier) hr.unmet
  · exact absurd (hr.reached s hearlier) hs.unmet

/-- A requirement is reached if the one before is reached and met. -/
theorem Reached.next {lookup : String → Option String} {r s : Requirement}
    (hr : r.Reached lookup) (hmet : r.Met lookup) (horder : s.earlier = r.earlier ++ [r]) :
    s.Reached lookup := by
  rw [Reached, horder]
  exact List.forall_mem_append.mpr ⟨hr, List.forall_mem_singleton.mpr hmet⟩

end Requirement

open Requirement (FirstUnmet)

/-- Accepted settings are what was found. -/
structure Configured (lookup : String → Option String) (settings : Settings) : Prop where
  port : StandsFor PortText 3000 (lookup "PORT") settings.port
  deployment : settings.deployment = .production ↔ NamesProduction lookup
  allowedOrigins : Lists ((lookup "CORS_ALLOWED_ORIGINS").getD "") settings.allowedOrigins
  cookieName :
    StandsFor CookieNameText "access_token" (lookup "AUTH_COOKIE_NAME") settings.cookieName
  coreUrl : StandsFor CoreUrlText none (lookup "AUTH_CORE_URL") settings.coreUrl
  grantMode : StandsFor GrantModeText .tokenPair (lookup "AUTH_ISSUE_MODE") settings.grantMode
  accessLifetime :
    StandsFor LifetimeText 3600 (lookup "ACCESS_TOKEN_TTL_SECONDS") settings.accessLifetime
  requestTimeout :
    StandsFor TimeoutText 30 (lookup "REQUEST_TIMEOUT_SECONDS") settings.requestTimeout

/-- The core in memory is chosen exactly if there is no address of a remote core, which there always
is in production, where the core at the address is chosen. -/
structure ChoosesCore (lookup : String → Option String) (settings : Settings) : Prop where
  production : NamesProduction lookup → ∃ text, lookup "AUTH_CORE_URL" = some text ∧
    Text.trim text ≠ "" ∧ Startup.coreChoice settings = .remote (Text.trim text)
  memory : ∀ mode lifetime, Startup.coreChoice settings = .memory mode lifetime ↔
    ¬ NamesProduction lookup ∧ (∀ text, lookup "AUTH_CORE_URL" = some text → Text.trim text = "") ∧
      settings.grantMode = mode ∧ settings.accessLifetime = lifetime

section

variable {α β : Type} {lookup : String → Option String} {settings : Settings} {e : SettingsError}
  {text : String}

/-! ## Reading one setting -/

/-- A setting is read as what it stands for. If its text is of no kind, the error names it. -/
structure ReadsAs (read : Option String → Except SettingsError α) (Reads : String → α → Prop)
    (default : α) (name : String) : Prop where
  ok {found : Option String} {a : α} : read found = .ok a → StandsFor Reads default found a
  error {found : Option String} {e : SettingsError} :
    read found = .error e → ¬ Good Reads found ∧ .invalid name = e

/-- A setting that stands for something is good. -/
theorem StandsFor.good {Reads : String → α → Prop} {default a : α} {found : Option String}
    (h : StandsFor Reads default found a) : Good Reads found := by
  rintro text rfl
  cases h with
  | given h => exact ⟨_, h⟩

/-- A setting is read as what it stands for if its text is read as what it is a text of. -/
theorem readsAs_of_text {read : Option String → Except SettingsError α}
    {Reads : String → α → Prop} {default : α} {name : String} (readText? : String → Option α)
    (hnone : read none = .ok default)
    (hsome : ∀ text, read (some text) = (readText? text).elim (.error (.invalid name)) .ok)
    (htext : ∀ text a, readText? text = some a ↔ Reads text a) :
    ReadsAs read Reads default name := by
  constructor
  · intro found a h
    cases found with
    | none => exact Except.ok.inj (hnone.symm.trans h) ▸ .absent
    | some text =>
      rw [hsome] at h
      cases hread : readText? text with
      | none =>
        rw [hread] at h
        cases h
      | some b =>
        rw [hread] at h
        exact Except.ok.inj h ▸ .given ((htext text b).mp hread)
  · intro found e h
    cases found with
    | none => cases hnone.symm.trans h
    | some text =>
      rw [hsome] at h
      cases hread : readText? text with
      | none =>
        rw [hread] at h
        refine ⟨fun hgood => ?_, Except.error.inj h⟩
        obtain ⟨a, ha⟩ := hgood text rfl
        cases hread.symm.trans ((htext text a).mpr ha)
      | some b =>
        rw [hread] at h
        cases h

/-- The port is read exactly as its requirement says: a number below 65536, with no blanks around
it. -/
theorem readsAs_portOf : ReadsAs portOf PortText 3000 "PORT" := by
  refine readsAs_of_text (Text.natBelow? (Nat.pow 2 16)) rfl (fun text => ?_)
    fun _ _ => Text.natBelow?_eq_some_iff
  simp only [portOf]
  cases Text.natBelow? (Nat.pow 2 16) text <;> rfl

/-- A cookie name is usable if it is not empty and none of the three characters is in it. -/
theorem usableCookieName_iff {name : String} : usableCookieName name = true ↔
    name ≠ "" ∧ ';' ∉ name.toList ∧ '=' ∉ name.toList ∧ ' ' ∉ name.toList := by
  simp only [usableCookieName, Bool.and_eq_true, List.all_eq_true, bne_iff_ne]
  constructor
  · rintro ⟨hne, hall⟩
    refine ⟨by simpa using hne, ?_, ?_, ?_⟩ <;> intro hmem
    · exact (hall _ hmem).1.1 rfl
    · exact (hall _ hmem).1.2 rfl
    · exact (hall _ hmem).2 rfl
  · rintro ⟨hne, hsemicolon, hequals, hspace⟩
    refine ⟨by simpa using hne, fun c hc => ⟨⟨?_, ?_⟩, ?_⟩⟩ <;> rintro rfl
    · exact hsemicolon hc
    · exact hequals hc
    · exact hspace hc

/-- The name of the cookie is read exactly as its requirement says, without the blanks around it. -/
theorem readsAs_cookieNameOf :
    ReadsAs cookieNameOf CookieNameText "access_token" "AUTH_COOKIE_NAME" := by
  refine readsAs_of_text (fun text => (some (Text.trim text)).filter usableCookieName) rfl
    (fun text => ?_) fun text name => ?_
  · simp only [cookieNameOf, Option.map_some, Option.getD_some, Option.filter_some]
    split <;> rfl
  · rw [Option.filter_eq_some_iff, usableCookieName_iff, Option.some.injEq, CookieNameText]

/-- The address of a remote core is read exactly as its requirement says, and a blank one as
none. -/
theorem readsAs_coreUrlOf : ReadsAs coreUrlOf CoreUrlText none "AUTH_CORE_URL" := by
  refine readsAs_of_text (fun text =>
      if Text.trim text = "" then some none
      else if Text.startsWith "http://" (Text.trim text) ||
        Text.startsWith "https://" (Text.trim text) then some (some (Text.trim text)) else none)
    rfl (fun text => ?_) fun text url => ?_
  · by_cases hblank : Text.trim text = ""
    · rw [coreUrlOf, Option.map_some, hblank, if_pos rfl]
      rfl
    · have hsome : (!(Text.trim text).isEmpty) = true := by simpa using hblank
      simp only [coreUrlOf, Option.map_some, Option.filter_some, hsome, if_true, if_neg hblank]
      split <;> rfl
  · constructor
    · intro h
      split at h
      · next hblank => exact Option.some.inj h ▸ .blank hblank
      · next hsome =>
        split at h
        · next hscheme =>
          refine Option.some.inj h ▸ .address hsome ?_
          simpa [Text.startsWith] using hscheme
        · cases h
    · rintro (hblank | ⟨hsome, hscheme⟩)
      · rw [if_pos hblank]
      · rw [if_neg hsome, if_pos (by simpa [Text.startsWith] using hscheme)]

/-- The texts of a mode are those that name it. -/
theorem ofName?_eq_some_iff {mode : GrantMode} :
    GrantMode.ofName? text = some mode ↔ GrantModeText text mode := by
  have hname : ∀ name ∈ ["session", "token", "token_pair", "api"],
      Text.lowerAscii (Text.trim text) = name ↔ Text.InAnyCase (Text.trim text) name := by
    intro name hmem
    apply Text.lowerAscii_eq_iff
    revert name
    decide
  constructor
  · intro h
    simp only [GrantMode.ofName?] at h
    split at h
    · next hsession =>
      exact Option.some.inj h ▸ .session ((hname _ (by decide)).mp hsession)
    split at h
    · next hpair =>
      obtain rfl := Option.some.inj h
      have hmem : Text.lowerAscii (Text.trim text) ∈ ["token", "token_pair", "api"] := by
        simpa using hpair
      exact .tokenPair hmem ((hname _ (List.mem_cons_of_mem _ hmem)).mp rfl)
    · cases h
  · rintro (hsession | ⟨hmem, hpair⟩)
    · simp only [GrantMode.ofName?, (hname _ (by decide)).mpr hsession, if_true]
    · rw [← hname _ (List.mem_cons_of_mem _ hmem)] at hpair
      simp only [List.mem_cons, List.not_mem_nil, or_false] at hmem
      have hother : Text.lowerAscii (Text.trim text) ≠ "session" := by
        rintro hsession
        rw [← hpair, hsession] at hmem
        revert hmem
        decide
      rw [hpair] at hother
      simp only [GrantMode.ofName?, hpair, if_neg hother, if_pos hmem]

/-- The grant mode is read exactly as its requirement says, by any of its names. -/
theorem readsAs_grantModeOf :
    ReadsAs grantModeOf GrantModeText .tokenPair "AUTH_ISSUE_MODE" := by
  refine readsAs_of_text GrantMode.ofName? rfl (fun text => ?_) fun _ _ => ofName?_eq_some_iff
  simp only [grantModeOf]
  cases GrantMode.ofName? text <;> rfl

/-- The lifetime of access tokens is read exactly as its requirement says, up to the greatest
word. -/
theorem readsAs_accessLifetimeOf :
    ReadsAs accessLifetimeOf LifetimeText 3600 "ACCESS_TOKEN_TTL_SECONDS" := by
  refine readsAs_of_text (fun text => Text.natBelow? wordBound (Text.trim text)) rfl
    (fun text => ?_) fun _ _ => Text.natBelow?_eq_some_iff
  simp only [accessLifetimeOf]
  cases Text.natBelow? wordBound (Text.trim text) <;> rfl

/-- The time limit is read exactly as its requirement says, and zero is refused. -/
theorem readsAs_requestTimeoutOf :
    ReadsAs requestTimeoutOf TimeoutText 30 "REQUEST_TIMEOUT_SECONDS" := by
  refine readsAs_of_text
    (fun text => (Text.natBelow? wordBound (Text.trim text)).filter (0 < ·)) rfl
    (fun text => ?_) fun text seconds => ?_
  · simp only [requestTimeoutOf]
    cases (Text.natBelow? wordBound (Text.trim text)).filter (0 < ·) <;> rfl
  · rw [Option.filter_eq_some_iff, Text.natBelow?_eq_some_iff, decide_eq_true_eq]
    exact Iff.rfl

/-- Production is what a deployment is read as if it is named. -/
theorem ofSetting_eq_production_iff :
    Deployment.ofSetting (lookup "APP_ENV") = .production ↔ NamesProduction lookup := by
  rw [NamesProduction]
  cases lookup "APP_ENV" with
  | none => simp [Deployment.ofSetting]
  | some text =>
    have hlong : Text.lowerAscii text = "production" ↔ Text.InAnyCase text "production" :=
      Text.lowerAscii_eq_iff (by decide)
    have hshort : Text.lowerAscii text = "prod" ↔ Text.InAnyCase text "prod" :=
      Text.lowerAscii_eq_iff (by decide)
    simp only [Deployment.ofSetting, Option.some.injEq, exists_eq_left', ← hlong, ← hshort]
    split
    · next hnamed => simp only [hnamed]
    · next hother => simp only [hother, reduceCtorEq]

/-- What comes after a check fails if the check does, or after it. -/
theorem bind_eq_error_iff {r : Except SettingsError α} {f : α → Except SettingsError β} :
    (r >>= f) = .error e ↔ r = .error e ∨ ∃ a, r = .ok a ∧ f a = .error e := by
  cases r with
  | error e' => simp [bind, Except.bind]
  | ok a => simp [bind, Except.bind]

/-! ## All settings -/

/-- The address of a remote core is what is found without the blanks around it, if anything is
left. -/
theorem StandsFor.coreUrl_eq_some_iff {found url : Option String} {address : String}
    (h : StandsFor CoreUrlText none found url) : url = some address ↔
      ∃ text, found = some text ∧ Text.trim text ≠ "" ∧ Text.trim text = address := by
  cases h with
  | absent => simp
  | given h =>
    cases h with
    | blank hblank => simp [hblank]
    | address hsome _ => simp [hsome]

/-- There is no address of a remote core if nothing is found, or blanks only. -/
theorem StandsFor.coreUrl_eq_none_iff {found url : Option String}
    (h : StandsFor CoreUrlText none found url) :
    url = none ↔ ∀ text, found = some text → Text.trim text = "" := by
  cases h with
  | absent => simp
  | given h =>
    cases h with
    | blank hblank => simp [hblank]
    | address hsome _ => simp [hsome]

/-- Production is named exactly if the deployment is the strict one. -/
theorem isProduction_iff {deployment : Deployment}
    (h : Deployment.ofSetting (lookup "APP_ENV") = deployment) :
    deployment.isProduction = true ↔ NamesProduction lookup := by
  rw [← ofSetting_eq_production_iff, h]
  cases deployment <;> simp [Deployment.isProduction]

/-- The core is remote in production exactly if its address is found there. -/
theorem met_remoteCore_iff {url : Option String}
    (hurl : StandsFor CoreUrlText none (lookup "AUTH_CORE_URL") url) :
    Requirement.remoteCore.Met lookup ↔ (NamesProduction lookup → url ≠ none) := by
  have hsome : url ≠ none ↔ ∃ text, lookup "AUTH_CORE_URL" = some text ∧ Text.trim text ≠ "" := by
    simp only [ne_eq, hurl.coreUrl_eq_none_iff, not_forall, exists_prop]
  exact imp_congr_right fun _ => hsome.symm

/-- Accepted settings meet every requirement. -/
theorem ReadFrom.met (h : ReadFrom lookup settings) (r : Requirement) : r.Met lookup := by
  cases r with
  | port => exact (readsAs_portOf.ok h.port).good
  | cookieName => exact (readsAs_cookieNameOf.ok h.cookieName).good
  | coreUrl => exact (readsAs_coreUrlOf.ok h.coreUrl).good
  | remoteCore =>
    rw [met_remoteCore_iff (readsAs_coreUrlOf.ok h.coreUrl), ← isProduction_iff h.deployment]
    exact h.remote
  | grantMode => exact (readsAs_grantModeOf.ok h.grantMode).good
  | accessLifetime => exact (readsAs_accessLifetimeOf.ok h.accessLifetime).good
  | requestTimeout => exact (readsAs_requestTimeoutOf.ok h.requestTimeout).good

/-- Refused settings do not meet a requirement, and the error is that of the first one. -/
theorem exists_firstUnmet (h : ofLookup lookup = .error e) :
    ∃ r, FirstUnmet lookup r ∧ r.error = e := by
  simp only [ofLookup] at h
  have hreached : Requirement.port.Reached lookup := List.forall_mem_nil _
  rcases bind_eq_error_iff.mp h with hport | ⟨port, hport, hrest⟩
  · obtain ⟨hunmet, rfl⟩ := readsAs_portOf.error hport
    exact ⟨.port, ⟨hreached, hunmet⟩, rfl⟩
  replace hreached : Requirement.cookieName.Reached lookup :=
    hreached.next (readsAs_portOf.ok hport).good rfl
  rcases bind_eq_error_iff.mp hrest with hname | ⟨name, hname, hrest⟩
  · obtain ⟨hunmet, rfl⟩ := readsAs_cookieNameOf.error hname
    exact ⟨.cookieName, ⟨hreached, hunmet⟩, rfl⟩
  replace hreached : Requirement.coreUrl.Reached lookup :=
    hreached.next (readsAs_cookieNameOf.ok hname).good rfl
  rcases bind_eq_error_iff.mp hrest with hurl | ⟨url, hurl, hrest⟩
  · obtain ⟨hunmet, rfl⟩ := readsAs_coreUrlOf.error hurl
    exact ⟨.coreUrl, ⟨hreached, hunmet⟩, rfl⟩
  replace hreached : Requirement.remoteCore.Reached lookup :=
    hreached.next (readsAs_coreUrlOf.ok hurl).good rfl
  have hremote := met_remoteCore_iff (readsAs_coreUrlOf.ok hurl)
  rw [← isProduction_iff rfl] at hremote
  split at hrest
  · next hmissing =>
    obtain ⟨hproduction, hnone⟩ := Bool.and_eq_true_iff.mp hmissing
    refine ⟨.remoteCore, ⟨hreached, ?_⟩, Except.error.inj hrest⟩
    rw [hremote]
    exact fun hpresent => hpresent hproduction (Option.isNone_iff_eq_none.mp hnone)
  next hpresent =>
  replace hreached : Requirement.grantMode.Reached lookup := by
    refine hreached.next (hremote.mpr ?_) rfl
    rintro hproduction rfl
    exact hpresent (by rw [hproduction]; rfl)
  rcases bind_eq_error_iff.mp hrest with hmode | ⟨mode, hmode, hrest⟩
  · obtain ⟨hunmet, rfl⟩ := readsAs_grantModeOf.error hmode
    exact ⟨.grantMode, ⟨hreached, hunmet⟩, rfl⟩
  replace hreached : Requirement.accessLifetime.Reached lookup :=
    hreached.next (readsAs_grantModeOf.ok hmode).good rfl
  rcases bind_eq_error_iff.mp hrest with hlifetime | ⟨lifetime, hlifetime, hrest⟩
  · obtain ⟨hunmet, rfl⟩ := readsAs_accessLifetimeOf.error hlifetime
    exact ⟨.accessLifetime, ⟨hreached, hunmet⟩, rfl⟩
  replace hreached : Requirement.requestTimeout.Reached lookup :=
    hreached.next (readsAs_accessLifetimeOf.ok hlifetime).good rfl
  rcases bind_eq_error_iff.mp hrest with htimeout | ⟨timeout, htimeout, hrest⟩
  · obtain ⟨hunmet, rfl⟩ := readsAs_requestTimeoutOf.error htimeout
    exact ⟨.requestTimeout, ⟨hreached, hunmet⟩, rfl⟩
  · cases hrest

/-- The error of refused settings is that of the first requirement that is not met. -/
theorem ofLookup_eq_error_iff :
    ofLookup lookup = .error e ↔ ∃ r, FirstUnmet lookup r ∧ r.error = e := by
  refine ⟨exists_firstUnmet, ?_⟩
  rintro ⟨r, hr, rfl⟩
  cases h : ofLookup lookup with
  | ok settings => exact absurd ((ReadFrom.of_ofLookup h).met r) hr.unmet
  | error e =>
    obtain ⟨s, hs, rfl⟩ := exists_firstUnmet h
    rw [hr.unique hs]

/-- The origins are the nonempty entries between commas, without the blanks around them. -/
theorem lists_originsOf (value : Option String) : Lists (value.getD "") (originsOf value) := by
  refine ⟨Text.splitAt ',' (value.getD "").toList, ?_, fun _ => Text.not_mem_of_mem_splitAt, ?_⟩
  · rw [Text.splitAt_eq_splitOn, List.intercalate_splitOn]
  · simp only [originsOf, Text.trim, String.toList_ofList]
    refine List.filter_congr fun entry _ => ?_
    rw [Bool.eq_iff_iff]
    simp

/-- Accepted settings are what was found. -/
theorem ReadFrom.configured (h : ReadFrom lookup settings) : Configured lookup settings where
  port := readsAs_portOf.ok h.port
  deployment := h.deployment ▸ ofSetting_eq_production_iff
  allowedOrigins := h.allowedOrigins ▸ lists_originsOf _
  cookieName := readsAs_cookieNameOf.ok h.cookieName
  coreUrl := readsAs_coreUrlOf.ok h.coreUrl
  grantMode := readsAs_grantModeOf.ok h.grantMode
  accessLifetime := readsAs_accessLifetimeOf.ok h.accessLifetime
  requestTimeout := readsAs_requestTimeoutOf.ok h.requestTimeout

/-- The core of accepted settings is in memory only outside of production. -/
theorem ReadFrom.choosesCore (h : ReadFrom lookup settings) : ChoosesCore lookup settings := by
  have hurl := readsAs_coreUrlOf.ok h.coreUrl
  constructor
  case production =>
    intro hproduction
    obtain ⟨address, haddress⟩ := Option.ne_none_iff_exists'.mp
      (h.remote ((isProduction_iff h.deployment).mpr hproduction))
    obtain ⟨text, hfound, hsome, rfl⟩ := hurl.coreUrl_eq_some_iff.mp haddress
    exact ⟨text, hfound, hsome, by rw [Startup.coreChoice, haddress]⟩
  case memory =>
    intro mode lifetime
    rw [← hurl.coreUrl_eq_none_iff, ← isProduction_iff h.deployment, Startup.coreChoice]
    cases haddress : settings.coreUrl with
    | some address => simp
    | none =>
      have hdevelopment : ¬ settings.deployment.isProduction = true :=
        fun hproduction => h.remote hproduction haddress
      simp [hdevelopment]

/-- **Accepted settings.** Settings are refused exactly if a requirement is not met, with the error
of the first one. Accepted settings are what was found, and production never has the core in
memory. -/
theorem ofLookup_told (lookup : String → Option String) :
    ((∃ e, ofLookup lookup = .error e) ↔ ∃ r : Requirement, ¬ r.Met lookup) ∧
    (∀ e, ofLookup lookup = .error e ↔ ∃ r, FirstUnmet lookup r ∧ r.error = e) ∧
    ∀ settings, ofLookup lookup = .ok settings →
      Configured lookup settings ∧ ChoosesCore lookup settings := by
  refine ⟨⟨?_, ?_⟩, fun e => ofLookup_eq_error_iff, ?_⟩
  · rintro ⟨e, he⟩
    obtain ⟨r, hr, -⟩ := exists_firstUnmet he
    exact ⟨r, hr.unmet⟩
  · rintro ⟨r, hunmet⟩
    cases h : ofLookup lookup with
    | ok settings => exact absurd ((ReadFrom.of_ofLookup h).met r) hunmet
    | error e => exact ⟨e, rfl⟩
  · intro settings hok
    have hread := ReadFrom.of_ofLookup hok
    exact ⟨hread.configured, hread.choosesCore⟩

end

/-! ## A production environment -/

/-- Settings of production, with capitals, plus signs and blanks. -/
def productionEnvironment (name : String) : Option String :=
  List.lookup name [
    ("PORT", "+08080"),
    ("APP_ENV", "PRODUCTION"),
    ("CORS_ALLOWED_ORIGINS", " https://a.example, ,https://b.example"),
    ("AUTH_COOKIE_NAME", " sid"),
    ("AUTH_CORE_URL", "https://core/\n"),
    ("AUTH_ISSUE_MODE", " Api"),
    ("ACCESS_TOKEN_TTL_SECONDS", "18446744073709551615"),
    ("REQUEST_TIMEOUT_SECONDS", " 5 ")]

/-- The same settings with a name that is no cookie's, and without an address of a core. -/
def faultyEnvironment (name : String) : Option String :=
  if name = "AUTH_COOKIE_NAME" then some "a=b"
  else if name = "AUTH_CORE_URL" then none
  else productionEnvironment name

/-- The settings of production are accepted, and the faulty ones are refused for the name. -/
theorem ofLookup_told_production :
    let settings : Settings := {
      port := 8080
      deployment := .production
      allowedOrigins := ["https://a.example", "https://b.example"]
      cookieName := "sid"
      coreUrl := some "https://core/"
      grantMode := .tokenPair
      accessLifetime := 18446744073709551615
      requestTimeout := 5 }
    ofLookup productionEnvironment = .ok settings ∧
      Configured productionEnvironment settings ∧
      Startup.coreChoice settings = .remote "https://core/" ∧
      FirstUnmet faultyEnvironment .cookieName := by
  intro settings
  have hok : ofLookup productionEnvironment = .ok settings := by decide +kernel
  obtain ⟨hconfigured, hchooses⟩ := (ofLookup_told productionEnvironment).2.2 settings hok
  have hproduction : NamesProduction productionEnvironment :=
    ⟨"PRODUCTION", rfl, .inl ((Text.lowerAscii_eq_iff (by decide)).mp (by decide))⟩
  obtain ⟨text, hfound, -, hcore⟩ := hchooses.production hproduction
  obtain rfl := Option.some.inj (show some "https://core/\n" = some text from hfound)
  have herror : ofLookup faultyEnvironment = .error (.invalid "AUTH_COOKIE_NAME") := by
    decide +kernel
  obtain ⟨r, hr, hname⟩ := ((ofLookup_told faultyEnvironment).2.1 _).mp herror
  have hcookie : r = .cookieName := by
    revert hname
    cases r <;> decide
  exact ⟨hok, hconfigured, hcore, hcookie ▸ hr⟩

end IdentityGateway.Settings
