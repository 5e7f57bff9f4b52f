import IdentityGateway.Proofs.Gateway.Questions
import IdentityGateway.Proofs.Gateway.Responses

/-!
# Ids of requests

A response tells the id of its request, whatever it is an answer of: a route, a refusal on the way
to it, the limit of declared lengths or a question about origins. Only when a call of the core is
answered too late does the response go without, because it is made outside the layer of ids.
-/

namespace IdentityGateway.Gateway

open Http (FieldValue Headers Request Response)

/-- A response tells the id of its request once. It is the first one that the request came with, or
else the one that was generated for it. -/
structure TellsId (request : Request) (freshId : FieldValue) (response : Response) : Prop where
  own : ∀ id, request.headers.first? "x-request-id" = some id →
    response.headers.all "x-request-id" = [id]
  generated : request.headers.first? "x-request-id" = none →
    response.headers.all "x-request-id" = [freshId]

section

variable {σ : Type} {core : Core σ} {moment : Moment} {s : σ}

/-- A question is not answered in time if it is a call whose answer takes longer than the limit. -/
theorem isInTime_eq_false_iff {limit : Nat} {question : Option Call} :
    core.isInTime moment (some limit) 0 s question = false ↔ ∃ call ∈ question.toList,
      Consultation.waited limit < Consultation.waited (core.delay moment s call) := by
  cases question with
  | none => simp [Core.isInTime]
  | some call => simp [Core.isInTime, Consultation.isLate]

/-- A response has the status of a late one exactly if an answer of the core is late. -/
theorem serve_status_eq_late_iff (service : Service) (core : Core σ) (moment : Moment)
    (freshId : FieldValue) (request : Request) (s : σ) :
    (serve service core moment freshId request s).response.status = 408 ↔
      core.isInTime moment (some service.timeLimit) 0 s (question service request) = false := by
  rw [serve_status]
  cases core.isInTime moment (some service.timeLimit) 0 s (question service request) with
  | true =>
    have hstatus := status_answerWithId_ne service request (core.answers moment s)
    simpa using hstatus
  | false => simp

/-- No answer tells an id before the layer of ids gives it one. -/
theorem all_answerWithId_id (service : Service) (request : Request) (answers : Answers) :
    ((answerWithId service request).result answers).headers.all requestIdHeader = [] := by
  unfold answerWithId
  split
  · exact Headers.all_cons_of_ne (by decide)
  · rw [all_answerInTime service request answers (by decide) (by decide)]
    exact all_addedHeaders_of_ne _ _ (by decide) (by decide) (by decide)

/-- The ids in a response: one, unless it is late. -/
theorem all_serve_id (service : Service) (core : Core σ) (moment : Moment) (freshId : FieldValue)
    (request : Request) (s : σ) :
    (serve service core moment freshId request s).response.headers.all requestIdHeader =
      if core.isInTime moment (some service.timeLimit) 0 s (question service request) then
        [requestId request.headers freshId]
      else [] := by
  rw [serve_headers (by decide), all_answerWithId_id, List.nil_append, Headers.all_cons_self]
  rfl

/-- **Ids.** Whatever the service, the core and the request, the response tells the id of the
request unless its status is 408. It has this status exactly if the request makes a call of the
core whose answer takes longer than the limit, and then it tells no id. -/
theorem id_told (service : Service) (core : Core σ) (moment : Moment) (freshId : FieldValue)
    (request : Request) (s : σ) :
    let served := serve service core moment freshId request s
    (served.response.status ≠ 408 → TellsId request freshId served.response) ∧
      (served.response.status = 408 ↔ ∃ call ∈ served.calls,
        Consultation.waited service.timeLimit < Consultation.waited (core.delay moment s call)) ∧
      (served.response.status = 408 → served.response.headers.all "x-request-id" = []) := by
  intro served
  have hids := all_serve_id service core moment freshId request s
  have hlate := serve_status_eq_late_iff service core moment freshId request s
  refine ⟨?_, ?_, ?_⟩
  · intro hstatus
    rw [if_pos (Bool.not_eq_false _ ▸ mt hlate.mpr hstatus)] at hids
    constructor
    case own =>
      intro id hid
      exact hids.trans (by rw [requestId, requestIdHeader, hid, Option.getD_some])
    case generated =>
      intro hnone
      exact hids.trans (by rw [requestId, requestIdHeader, hnone, Option.getD_none])
  · rw [serve_calls]
    exact hlate.trans isInTime_eq_false_iff
  · intro hstatus
    rw [hlate.mp hstatus, if_neg Bool.false_ne_true] at hids
    exact hids

end

/-! ## A question about origins, and a late answer -/

/-- A question about origins with two ids, at a path where there is nothing. -/
def twoIdsRequest : Request :=
  ⟨"OPTIONS", "/nowhere",
    [("x-request-id", Http.asciiBytes "r1"), ("x-request-id", Http.asciiBytes "r2")], []⟩

/-- The answer to it tells the first of its ids. -/
theorem id_told_twoIdsRequest :
    let response := (serve cookieService (Scripted.core slowScript) firstMoment
      (Http.asciiBytes "fresh") twoIdsRequest {}).response
    response.status = 200 ∧ response.headers.all "x-request-id" = [Http.asciiBytes "r1"] := by
  intro response
  have hstatus : response.status = 200 := by decide
  obtain ⟨htold, -, -⟩ := id_told cookieService (Scripted.core slowScript) firstMoment
    (Http.asciiBytes "fresh") twoIdsRequest {}
  exact ⟨hstatus, (htold (hstatus ▸ by decide)).own (Http.asciiBytes "r1") (by decide)⟩

/-- A request with an id whose credential the core is slow to look up. -/
def slowRequest : Request :=
  { cookieRequest with
    headers := ("x-request-id", Http.asciiBytes "r1") :: cookieRequest.headers }

/-- Its response does not tell the id. -/
theorem not_tellsId_slowRequest :
    let response := (serve cookieService (Scripted.core slowScript) firstMoment
      (Http.asciiBytes "fresh") slowRequest {}).response
    slowRequest.headers.first? "x-request-id" = some (Http.asciiBytes "r1") ∧
      response.status = 408 ∧ response.headers.all "x-request-id" = [] ∧
      ¬ TellsId slowRequest (Http.asciiBytes "fresh") response := by
  intro response
  have hid : slowRequest.headers.first? "x-request-id" = some (Http.asciiBytes "r1") := by decide
  have hnone : response.headers.all "x-request-id" = [] := by decide
  refine ⟨hid, by decide, hnone, ?_⟩
  intro htells
  cases hnone.symm.trans (htells.own _ hid)

end IdentityGateway.Gateway
