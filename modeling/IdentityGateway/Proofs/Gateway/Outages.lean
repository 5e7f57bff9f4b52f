import IdentityGateway.Proofs.Gateway.Agreement
import IdentityGateway.Proofs.Remote

/-!
# Outages of a remote core

A look-up that fails for whatever reason is told as one and the same outage. A user is shown, and a
credential is refused, only if the remote core said so.
-/

namespace IdentityGateway.Gateway

open Http (FieldValue Headers)
open Remote (Outage Tells Transport lookedUp)

/-- The one page that every outage is told by: the service is unavailable, whatever the core did. -/
def outagePage : Nat × String :=
  (503, "\x7b\"message\":\"Authentication service unavailable\"\x7d")

/-- Every outage is told alike. -/
theorem page_of_outage {failure : CoreFailure} (h : Outage failure) :
    failure.page = outagePage := by
  have htold : (failureResponse .coreUnavailable).page = outagePage := by decide
  cases h with
  | unavailable _ => exact htold
  | invalidResponse _ => exact htold

section

variable {credential : Credential}

/-- What an answer tells of a credential is told with a status of its own. -/
theorem status_found {lookup : String → LookupResult} {found : Option Identity}
    (hsaid : lookup credential.token = .ok found) :
    (toldPage sessionView (Access.finding lookup (some credential)).welcome).1 = 200 ∧
      ((toldPage Identity.view (Access.finding lookup (some credential)).required).1 = 200 ∨
        (toldPage Identity.view (Access.finding lookup (some credential)).required).1 = 401) := by
  simp only [Access.finding, hsaid]
  cases found with
  | none => exact ⟨rfl, .inr rfl⟩
  | some u => exact ⟨rfl, .inl rfl⟩

/-- Under an outage the session answer and the user's own record both tell the page of it. -/
theorem toldPage_of_outage {lookup : String → LookupResult} {failure : CoreFailure}
    (houtage : Outage failure) (hsaid : lookup credential.token = .error failure) :
    toldPage sessionView (Access.finding lookup (some credential)).welcome = outagePage ∧
      toldPage Identity.view (Access.finding lookup (some credential)).required = outagePage := by
  simp only [Access.finding, hsaid]
  exact ⟨page_of_outage houtage, page_of_outage houtage⟩

end

/-- A page about a credential tells an outage exactly if the core was not told whose the token is.
Otherwise it welcomes or refuses. -/
structure TellsOutage (delivery : Remote.Delivery) (page : Nat × String) : Prop where
  outage : page = outagePage ↔ ∀ found, ¬ Tells delivery found
  answer : page.1 = 200 ∨ page.1 = 401 ↔ ∃ found, Tells delivery found

/-- A page that tells an outage or has the status of an answer, as the core was told or not. -/
theorem TellsOutage.of_cases {delivery : Remote.Delivery} {page : Nat × String}
    (h : (∃ found, Tells delivery found) ∧ (page.1 = 200 ∨ page.1 = 401) ∨
      (∀ found, ¬ Tells delivery found) ∧ page = outagePage) : TellsOutage delivery page := by
  rcases h with ⟨⟨found, htells⟩, hstatus⟩ | ⟨hsilent, rfl⟩
  · constructor
    case outage =>
      constructor
      · rintro rfl
        exact absurd hstatus (by decide)
      · intro hsilent
        exact absurd htells (hsilent found)
    case answer => exact ⟨fun _ => ⟨found, htells⟩, fun _ => hstatus⟩
  · constructor
    case outage => exact ⟨fun _ => hsilent, fun _ => rfl⟩
    case answer =>
      constructor
      · intro hstatus
        exact absurd hstatus (by decide)
      · rintro ⟨found, htells⟩
        exact absurd htells (hsilent found)

/-- What is found by a credential tells an outage, where an identity is welcome and where one is
required. -/
theorem tellsOutage_found {τ : Type} (transport : Transport τ) (base : String) (moment : Moment)
    (state : τ) (credential : Credential) :
    let lookup := ((Remote.core transport base).answers moment state).lookup
    let delivery := lookedUp transport base credential.token state
    TellsOutage delivery
        (toldPage Identity.view (Access.finding lookup (some credential)).required) ∧
      TellsOutage delivery
        (toldPage sessionView (Access.finding lookup (some credential)).welcome) := by
  intro lookup delivery
  by_cases htold : ∃ found, Tells delivery found
  · obtain ⟨found, htells⟩ := htold
    have hsaid : lookup credential.token = .ok found := Remote.lookup_eq_ok_iff.mpr htells
    obtain ⟨hsession, hme⟩ := status_found hsaid
    exact ⟨.of_cases (.inl ⟨⟨found, htells⟩, hme⟩),
      .of_cases (.inl ⟨⟨found, htells⟩, .inl hsession⟩)⟩
  · have hsilent : ∀ found, ¬ Tells delivery found := not_exists.mp htold
    obtain ⟨failure, houtage, hsaid⟩ := Remote.exists_outage hsilent
    obtain ⟨hsession, hme⟩ := toldPage_of_outage houtage hsaid
    exact ⟨.of_cases (.inr ⟨hsilent, hme⟩), .of_cases (.inr ⟨hsilent, hsession⟩)⟩

/-- **Outages.** Whatever becomes of a look-up, a remote core knows whose the token is, or that it
is nobody's, exactly if it was told so, and otherwise says that there is an outage. A request with
the token as its credential, for one's own record or for the session answer, is told of the outage
in exactly these cases, and always in the same words. -/
theorem outages_told {τ : Type} (service : Service) (transport : Transport τ) (base : String)
    (moment : Moment) (state : τ) (token : String) :
    (∀ found, ((Remote.core transport base).answers moment state).lookup token = .ok found ↔
        Tells (lookedUp transport base token state) found) ∧
      ((∀ found, ¬ Tells (lookedUp transport base token state) found) →
        ∃ failure, Outage failure ∧
          ((Remote.core transport base).answers moment state).lookup token = .error failure) ∧
      ∀ (headers : Headers) (credential : Credential),
        Credential.extract headers service.desk.cookieName = some credential →
        credential.token = token →
        headers.first? "content-length" = none →
        (Remote.core transport base).isInTime moment (some service.timeLimit) 0 state
          (some (.lookup token)) = true →
        ∀ (freshId : FieldValue) (body : List UInt8),
          TellsOutage (lookedUp transport base token state)
              (serve service (Remote.core transport base) moment freshId
                ⟨"GET", "/api/v1/users/me", headers, body⟩ state).response.page ∧
            TellsOutage (lookedUp transport base token state)
              (serve service (Remote.core transport base) moment freshId
                ⟨"GET", "/api/v1/auth/session", headers, body⟩ state).response.page := by
  refine ⟨fun found => Remote.lookup_eq_ok_iff, Remote.exists_outage, ?_⟩
  rintro headers credential hcredential rfl hlength hintime freshId body
  have hended : ∀ page, unlessEnded service (Remote.core transport base) moment state headers page =
      page := by
    intro page
    simp only [unlessEnded, not_isDeclaredTooLong hlength, Access.question, hcredential,
      Option.map_some, hintime, Bool.false_eq_true, if_false, if_true]
  rw [page_serve_me, page_serve_session, hended, hended, hcredential]
  exact tellsOutage_found transport base moment state credential

/-! ## A body that breaks off -/

/-- A way to a core that answers every request, on which every body breaks off. -/
def brokenTransport : Transport Unit where
  deliver _ state := ((some ⟨200, none⟩, 7), state)

/-- A user is neither shown nor refused if the body of the reply breaks off. -/
theorem outages_told_brokenTransport :
    Credential.extract cookieRequest.headers "access_token" = some ⟨"a", .cookie⟩ ∧
      lookedUp brokenTransport "http://[::1]:9000" "a" () = some ⟨200, none⟩ ∧
      (serve cookieService (Remote.core brokenTransport "http://[::1]:9000") firstMoment []
        cookieRequest ()).response.page = outagePage := by
  obtain ⟨-, -, htold⟩ := outages_told cookieService brokenTransport "http://[::1]:9000" firstMoment
    () "a"
  have hfound : Credential.extract cookieRequest.headers "access_token" =
      some ⟨"a", .cookie⟩ := by decide
  have hlength : cookieRequest.headers.first? "content-length" = none := by decide
  have hdelivered : lookedUp brokenTransport "http://[::1]:9000" "a" () = some ⟨200, none⟩ := by
    decide +kernel
  have hintime : (Remote.core brokenTransport "http://[::1]:9000").isInTime firstMoment
      (some cookieService.timeLimit) 0 () (some (.lookup "a")) = true := by decide +kernel
  obtain ⟨hme, -⟩ := htold cookieRequest.headers ⟨"a", .cookie⟩ hfound rfl hlength hintime [] []
  refine ⟨hfound, hdelivered, hme.outage.mpr ?_⟩
  rw [hdelivered]
  exact Remote.not_tells_of_body_eq_none rfl rfl

end IdentityGateway.Gateway
