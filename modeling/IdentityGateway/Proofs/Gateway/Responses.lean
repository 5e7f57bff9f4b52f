import IdentityGateway.Proofs.Gateway.Serving

/-!
# What responses are made of

A route answers with JSON or with nothing but a status, and its headers say no more than that. The
layers around the routes add what is to be said of origins, the id of the request and the methods
of the route. A response to a request whose answer is late has no headers of theirs.
-/

namespace IdentityGateway

open Http (FieldValue Headers Request Response)
open Json (Value)

namespace Http.Headers

variable {name : String} {headers more : Headers} {value : FieldValue}

/-- The values of a name in two lists of header fields are those of both. -/
theorem all_append : Headers.all (headers ++ more) name = headers.all name ++ more.all name := by
  rw [Headers.all, List.filter_append, List.map_append]
  rfl

/-- A header field has its value. -/
theorem all_cons_self :
    Headers.all ((name, value) :: headers) name = value :: headers.all name := by
  simp [Headers.all]

/-- A header field of another name does not count. -/
theorem all_cons_of_ne {other : String} (hother : other ≠ name) :
    Headers.all ((other, value) :: headers) name = headers.all name := by
  simp [Headers.all, hother]

end Http.Headers

namespace Gateway

/-! ## Answers of routes -/

/-- The statuses of what is answered behind the time limit. -/
def answered : List Nat := [200, 201, 400, 401, 404, 405, 500, 503]

/-- A route's answer: JSON, or nothing but a status. -/
inductive Answered : Response → Prop
  | json {status : Nat} (hstatus : status ∈ answered) (body : Value) : Answered (.json status body)
  | empty {status : Nat} (hstatus : status ∈ answered) : Answered (.empty status)

section

variable {α : Type} {answers : Answers} {name : String} {response : Response}

/-- The status of a route's answer is one of a few. -/
theorem Answered.status_mem (h : Answered response) : response.status ∈ answered := by
  cases h with
  | json hstatus body => exact hstatus
  | empty hstatus => exact hstatus

/-- The headers of a route's answer tell the type of the body, if anything. -/
theorem Answered.all_eq_nil (h : Answered response) (hname : name ≠ "content-type") :
    response.headers.all name = [] := by
  cases h with
  | json hstatus body => exact Headers.all_cons_of_ne hname.symm
  | empty hstatus => rfl

/-- A failure is told in JSON. -/
theorem answered_failure (failure : RequestFailure) : Answered (failureResponse failure) := by
  refine .json ?_ _
  cases failure <;> simp [RequestFailure.status, answered]

/-- A request may be refused. -/
theorem answered_orFailure (r : Except RequestFailure α) {f : α → Consultation Response}
    (hf : ∀ a, Answered ((f a).result answers)) : Answered ((orFailure r f).result answers) := by
  cases r with
  | error failure => exact answered_failure failure
  | ok a => exact hf a

/-- What is told of a grant is JSON. -/
theorem answered_tellGrant (request : GrantRequest) {status : Nat} (hstatus : status ∈ answered)
    (event : Grant → Option Event) :
    Answered ((tellGrant request status event).result answers) := by
  rw [result_tellGrant]
  cases answers.grant request with
  | error failure => exact answered_failure _
  | ok g => exact .json hstatus _

/-- To look at the method first adds only an empty 405 to the responses of a route. -/
theorem answered_method (has : Bool) {answer : Consultation Response}
    (h : Answered (answer.result answers)) :
    Answered ((if !has then return wrongMethod else answer).result answers) := by
  cases has with
  | false => exact .empty (by decide)
  | true => exact h

/-- Every route responds as is listed, whatever the core says. -/
theorem answered_answerRoute (desk : Access.Desk) (route : Route) (request : Request)
    (answers : Answers) : Answered ((answerRoute desk route request).result answers) := by
  have hok : 200 ∈ answered := by decide
  have hcreated : 201 ∈ answered := by decide
  cases route with
  | health => exact answered_method _ (.json hok _)
  | register =>
    exact answered_method _ (answered_orFailure _ fun _ => answered_tellGrant _ hcreated _)
  | login => exact answered_method _ (answered_orFailure _ fun _ => answered_tellGrant _ hok _)
  | refresh => exact answered_method _ (answered_orFailure _ fun _ => answered_tellGrant _ hok _)
  | session =>
    refine answered_method _ ?_
    rw [session, Consultation.result_bind]
    exact answered_orFailure _ fun _ => .json hok _
  | me =>
    change Answered (((Access.guarded desk request.headers) >>= fun r => orFailure r fun u =>
      if Route.me.answers request.method then me desk (some u) request
      else return wrongMethod).result answers)
    rw [Consultation.result_bind]
    refine answered_orFailure _ fun u => ?_
    split
    · exact .json hok _
    · exact .empty (by decide)

/-- So does every path, where there may be no route. -/
theorem answered_answerPath (desk : Access.Desk) (request : Request) (answers : Answers) :
    Answered ((answerPath desk request).result answers) := by
  unfold answerPath
  cases Route.ofPath? request.path with
  | none => exact .empty (by decide)
  | some route => exact answered_answerRoute desk route request answers

/-! ## What is added to them -/

/-- Under a list of origins, a page's origin is told if it is on the list. -/
theorem originHeaders_listed (origins : List FieldValue) (origin : Option FieldValue) :
    Cors.originHeaders (.listed origins) origin =
      ("access-control-allow-credentials", Http.asciiBytes "true") ::
        (origin.filter origins.contains).toList.map ("access-control-allow-origin", ·) := by
  cases origin with
  | none => rfl
  | some o =>
    simp only [Cors.originHeaders, Option.filter_some]
    split <;> rfl

/-- What is said of origins is said under two names, and there is what it depends on. -/
theorem all_addedHeaders_of_ne (rule : Cors.Rule) (headers : Headers) (hvary : name ≠ "vary")
    (horigin : name ≠ "access-control-allow-origin")
    (hcredentials : name ≠ "access-control-allow-credentials") :
    (Cors.addedHeaders rule headers).all name = [] := by
  rw [Cors.addedHeaders, Cors.varyHeader, Headers.all_cons_of_ne hvary.symm]
  cases rule with
  | anyone => exact Headers.all_cons_of_ne horigin.symm
  | listed origins =>
    rw [originHeaders_listed, Headers.all_cons_of_ne hcredentials.symm]
    cases (headers.first? "origin").filter origins.contains with
    | none => rfl
    | some o => exact Headers.all_cons_of_ne horigin.symm

/-- The status of what is answered behind the time limit. -/
theorem status_answerInTime_mem (service : Service) (request : Request) (answers : Answers) :
    ((answerInTime service request).result answers).status ∈ answered := by
  unfold answerInTime
  split
  · exact (by decide : 200 ∈ answered)
  · rw [Consultation.result_bind]
    exact (answered_answerPath service.desk request answers).status_mem

/-- Behind the time limit, headers tell what is said of origins, but for the type of the body and
what a page may do. -/
theorem all_answerInTime (service : Service) (request : Request) (answers : Answers)
    (htype : name ≠ "content-type") (hpermissions : Headers.all Cors.permissions name = []) :
    ((answerInTime service request).result answers).headers.all name =
      (Cors.addedHeaders service.cors request.headers).all name := by
  unfold answerInTime
  split
  · change Headers.all (Cors.addedHeaders service.cors request.headers ++ Cors.permissions) name = _
    rw [Headers.all_append, hpermissions, List.append_nil]
  · rw [Consultation.result_bind]
    change Headers.all (_ ++ Cors.addedHeaders service.cors request.headers) name = _
    rw [Headers.all_append, (answered_answerPath service.desk request answers).all_eq_nil htype,
      List.nil_append]

/-- No answer in time has the status of one that is late. -/
theorem status_answerWithId_ne (service : Service) (request : Request) (answers : Answers) :
    ((answerWithId service request).result answers).status ≠ 408 := by
  have hother : 408 ∉ answered := by decide
  unfold answerWithId
  split
  · exact (by decide : (413 : Nat) ≠ 408)
  · intro hstatus
    exact hother (hstatus ▸ status_answerInTime_mem service request answers)

end

/-- The last touch leaves the status. -/
theorem status_finish (request : Request) (response : Response) :
    (finish request response).status = response.status := by
  unfold finish
  cases Route.ofPath? request.path with
  | none => rfl
  | some route => simp only; split <;> rfl

/-- The last touch adds to no header but the one that names methods. -/
theorem all_finish {name : String} (hname : name ≠ "allow") (request : Request)
    (response : Response) :
    (finish request response).headers.all name = response.headers.all name := by
  unfold finish
  cases Route.ofPath? request.path with
  | none => rfl
  | some route =>
    have hallow : (allowHeaders route request.method).all name = [] := by
      unfold allowHeaders
      split
      · rfl
      · exact Headers.all_cons_of_ne hname.symm
    have hmore : Headers.all (response.headers ++ allowHeaders route request.method) name =
        response.headers.all name := by
      rw [Headers.all_append, hallow, List.append_nil]
    simp only
    split <;> exact hmore

section

variable {σ : Type}

/-- The status of a served request. -/
theorem serve_status (service : Service) (core : Core σ) (moment : Moment) (freshId : FieldValue)
    (request : Request) (s : σ) :
    (serve service core moment freshId request s).response.status =
      if core.isInTime moment (some service.timeLimit) 0 s (question service request) then
        ((answerWithId service request).result (core.answers moment s)).status
      else 408 := by
  rw [serve_response, status_finish]
  split <;> rfl

/-- The header fields of a served request, apart from the methods of its route. -/
theorem serve_headers {name : String} (hname : name ≠ "allow") (service : Service) (core : Core σ)
    (moment : Moment) (freshId : FieldValue) (request : Request) (s : σ) :
    (serve service core moment freshId request s).response.headers.all name =
      if core.isInTime moment (some service.timeLimit) 0 s (question service request) then
        ((answerWithId service request).result (core.answers moment s)).headers.all name ++
          Headers.all [(requestIdHeader, requestId request.headers freshId)] name
      else [] := by
  rw [serve_response, all_finish hname]
  split
  · exact Headers.all_append
  · rfl

end

end Gateway

end IdentityGateway
