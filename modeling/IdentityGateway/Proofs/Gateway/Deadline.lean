import IdentityGateway.Proofs.Gateway.Redaction
import IdentityGateway.Proofs.Gateway.RequestIds

/-!
# The deadline

A request whose core answers within the time limit gets the response that it gets if the core
answers at once. If the core takes longer, the response is empty and tells nothing but that it is
late, whatever the request is. A limit of thirty years and more never ends, because no wait is
longer than that.
-/

namespace IdentityGateway

open Http (FieldValue Request Response)

/-- The same answer, as if it took no time. -/
def Answer.atOnce {α : Type} (answer : Answer α) : Answer α :=
  { answer with delay := 0 }

/-- A core that answers the same at once. -/
def Core.atOnce {σ : Type} (core : Core σ) : Core σ where
  name := core.name
  lookup moment token s := ((core.lookup moment token s).1.atOnce, (core.lookup moment token s).2)
  grant moment request s :=
    ((core.grant moment request s).1.atOnce, (core.grant moment request s).2)

namespace Scripted

/-- The reply of a step, without its delay. -/
def Step.atOnce (step : Step) : Step :=
  { step with delay := 0 }

/-- The script of a core that says the same without any delay, which the two runs are compared
by. -/
def Script.atOnce (script : Script) : Script where
  lookups := script.lookups.map fun entry => (entry.1, entry.2.atOnce)
  otherLookups := script.otherLookups.atOnce
  logins := script.logins.map Step.atOnce
  registrations := script.registrations.map Step.atOnce
  refreshes := script.refreshes.map Step.atOnce

/-- The step of a call is the same without delays. -/
theorem stepAt_map_atOnce (steps : List Step) (n : Nat) :
    stepAt (steps.map Step.atOnce) n = (stepAt steps n).atOnce := by
  rw [stepAt, stepAt, List.getElem?_map, List.getLast?_map]
  cases steps[n]? with
  | some step => rfl
  | none => cases steps.getLast? <;> rfl

/-- The step of a token is the same without delays. -/
theorem find?_map_atOnce (lookups : List (String × Step)) (other : Step) (token : String) :
    (((lookups.map fun entry => (entry.1, entry.2.atOnce)).find? fun entry =>
      entry.1 == token).map (·.2)).getD other.atOnce =
    (((lookups.find? fun entry => entry.1 == token).map (·.2)).getD other).atOnce := by
  rw [List.find?_map]
  simp only [Function.comp_def]
  cases lookups.find? fun entry => entry.1 == token <;> rfl

/-- The core that follows a script answers at once if the script has no delays. -/
theorem core_atOnce (script : Script) : core script.atOnce = (core script).atOnce := by
  simp only [core, Core.atOnce, Core.mk.injEq, true_and]
  constructor
  · funext _ token p
    simp only [Script.atOnce, find?_map_atOnce]
    rfl
  · funext _ request p
    cases request <;> simp only [Script.next, Script.atOnce, stepAt_map_atOnce] <;> rfl

end Scripted

/-- One wait is shorter than another if it is asked to be, unless it is the longest. -/
theorem Consultation.waited_lt_waited_iff {a b : Nat} :
    waited a < waited b ↔ a < b ∧ a < longestWait := by
  simp only [waited]
  omega

namespace Gateway

section

variable {σ : Type} {core : Core σ} {moment : Moment} {s : σ}

/-- Every answer that comes at once is in time. -/
theorem isInTime_atOnce (limit : Nat) (question : Option Call) :
    core.atOnce.isInTime moment (some limit) 0 s question = true := by
  rw [← Bool.not_eq_false, isInTime_eq_false_iff]
  rintro ⟨call, -, hlate⟩
  have hdelay : core.atOnce.delay moment s call = 0 := by cases call <;> rfl
  rw [hdelay, Consultation.waited_lt_waited_iff] at hlate
  exact Nat.not_lt_zero _ hlate.1

/-- A response in time is the one of a core that answers at once. -/
theorem told_eq_atOnce (service : Service) (visit : Visit) (id : FieldValue)
    (hintime : core.isInTime visit.moment (some service.timeLimit) 0 s
      (question service visit.request) = true) :
    visit.told (serve service core visit.moment visit.freshId visit.request s).response =
      visit.told (serve service core.atOnce visit.moment id visit.request s).response := by
  rw [serve_response, serve_response, hintime, isInTime_atOnce, if_pos rfl, if_pos rfl]
  exact visit.told_withId id _

private theorem body_finish_empty (request : Request) (status : Nat) :
    (finish request (.empty status)).body = "" := by
  unfold finish
  cases Route.ofPath? request.path with
  | none => rfl
  | some route => simp only; split <;> rfl

/-- **The deadline.** If no call of the core takes longer than the time limit of the settings, the
response is the one of a core that answers at once, but for a generated id. If one takes longer, the
response has the status 408 and no body, unless the limit is thirty years or more. With such a limit
the response is always the one of a core that answers at once. -/
theorem deadline_told (settings : Settings) (backend : String) (core : Core σ) (visit : Visit)
    (id : FieldValue) (s : σ) :
    let service := Service.ofSettings settings backend
    let served := serve service core visit.moment visit.freshId visit.request s
    let prompt := serve service core.atOnce visit.moment id visit.request s
    prompt.response.status ≠ 408 ∧
      ((∀ call ∈ served.calls,
          core.delay visit.moment s call ≤ settings.requestTimeout * 1000) →
        visit.told served.response = visit.told prompt.response) ∧
      ((∃ call ∈ served.calls, settings.requestTimeout * 1000 < core.delay visit.moment s call) →
        settings.requestTimeout * 1000 < Consultation.longestWait →
        served.response.status = 408 ∧ served.response.body = "") ∧
      (Consultation.longestWait ≤ settings.requestTimeout * 1000 →
        visit.told served.response = visit.told prompt.response) := by
  intro service served prompt
  have hcalls : served.calls = (question service visit.request).toList := serve_calls _ _ _ _ _ _
  have hlate : core.isInTime visit.moment (some service.timeLimit) 0 s
        (question service visit.request) = false ↔
      ∃ call ∈ served.calls, settings.requestTimeout * 1000 < core.delay visit.moment s call ∧
        settings.requestTimeout * 1000 < Consultation.longestWait := by
    rw [isInTime_eq_false_iff, hcalls]
    simp only [Consultation.waited_lt_waited_iff]
    rfl
  refine ⟨?_, ?_, ?_, ?_⟩
  · intro hstatus
    rw [serve_status_eq_late_iff, isInTime_atOnce] at hstatus
    cases hstatus
  · intro hshort
    apply told_eq_atOnce
    rw [← Bool.not_eq_false, hlate]
    rintro ⟨call, hcall, hlong, -⟩
    exact Nat.not_lt.mpr (hshort call hcall) hlong
  · rintro ⟨call, hcall, hlong⟩ hlimit
    have hresponse : served.response = finish visit.request (.empty 408) := by
      rw [serve_response, hlate.mpr ⟨call, hcall, hlong, hlimit⟩, if_neg Bool.false_ne_true]
    rw [hresponse, status_finish]
    exact ⟨rfl, body_finish_empty _ _⟩
  · intro hlimit
    apply told_eq_atOnce
    rw [← Bool.not_eq_false, hlate]
    rintro ⟨call, -, -, hshort⟩
    exact Nat.not_lt.mpr hlimit hshort

end

/-! ## A core that is waited for -/

/-- The usual settings but for the time limit, which the samples below differ in. -/
def limitedTo (seconds : Nat) : Settings where
  port := 3000
  deployment := .development
  allowedOrigins := []
  cookieName := "access_token"
  coreUrl := none
  grantMode := .tokenPair
  accessLifetime := 3600
  requestTimeout := seconds

/-- A core that knows nobody, and takes some milliseconds to say so. -/
def waitedFor (milliseconds : Nat) : Scripted.Script :=
  ⟨[], ⟨milliseconds, .nothing⟩, [], [], []⟩

/-- A response to a request for one's own record, with an id for the request. -/
def servedAfter (seconds milliseconds : Nat) (id : FieldValue) : Served Scripted.Progress :=
  serve (.ofSettings (limitedTo seconds) "scripted") (Scripted.core (waitedFor milliseconds))
    firstMoment id cookieRequest {}

/-- Ten seconds are in time for a limit of ten seconds, and a millisecond more is not. With a limit
of a thousand million seconds a core is always waited for. -/
theorem deadline_told_cookieRequest :
    let visit : Visit := ⟨firstMoment, [49], cookieRequest⟩
    visit.told (servedAfter 10 10000 [49]).response = visit.told (servedAfter 10 0 [50]).response ∧
    (servedAfter 10 10001 [49]).response.status = 408 ∧
    (servedAfter 10 10001 [49]).response.body = "" ∧
    visit.told (servedAfter 1000000000 1000000000001 [49]).response =
      visit.told (servedAfter 1000000000 0 [50]).response := by
  intro visit
  have hatOnce : ∀ milliseconds, (Scripted.core (waitedFor milliseconds)).atOnce =
      Scripted.core (waitedFor 0) := fun milliseconds =>
    (Scripted.core_atOnce (waitedFor milliseconds)).symm
  obtain ⟨-, hintime, -, -⟩ := deadline_told (limitedTo 10) "scripted"
    (Scripted.core (waitedFor 10000)) visit [50] {}
  obtain ⟨-, -, hlate, -⟩ := deadline_told (limitedTo 10) "scripted"
    (Scripted.core (waitedFor 10001)) visit [50] {}
  obtain ⟨-, -, -, hnever⟩ := deadline_told (limitedTo 1000000000) "scripted"
    (Scripted.core (waitedFor 1000000000001)) visit [50] {}
  rw [hatOnce] at hintime hnever
  obtain ⟨hstatus, hbody⟩ := hlate ⟨.lookup "a", by decide, by decide⟩ (by decide)
  exact ⟨hintime (by decide), hstatus, hbody, hnever (by decide)⟩

/-- A call that takes longer than a limit of a thousand million seconds is not cut. -/
theorem servedAfter_status_ne :
    let core := Scripted.core (waitedFor 1000000000001)
    (∃ call ∈ (servedAfter 1000000000 1000000000001 []).calls,
      1000000000 * 1000 < core.delay firstMoment {} call) ∧
    (servedAfter 1000000000 1000000000001 []).response.status ≠ 408 := by
  intro core
  exact ⟨⟨.lookup "a", by decide, by decide⟩, by decide⟩

end Gateway

end IdentityGateway
