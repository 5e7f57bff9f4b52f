import IdentityGateway.Proofs.Gateway.Grants
import IdentityGateway.Proofs.Gateway.Redaction
import IdentityGateway.Proofs.Memory.Course

/-!
# Traffic

Requests that are served one after another, with the responses. What happens to the core is the
history of the calls that the requests make.
-/

namespace IdentityGateway.Gateway

open Http (FieldValue Request Response)

/-- A request that was served, its response, and the call that it made of the core, if it made
one. -/
structure Exchange where
  visit : Visit
  response : Response
  recorded? : Option Entry

/-- A visit with the response it gets, and with the call that it made, as histories of a core record
it. -/
def Visit.exchange {σ : Type} (visit : Visit) (service : Service) (core : Core σ) (s : σ) :
    Exchange where
  visit := visit
  response := (serve service core visit.moment visit.freshId visit.request s).response
  recorded? := (question service visit.request).map fun call =>
    ⟨visit.moment, call, (core.reply visit.moment call s).1⟩

/-- The exchanges that lead a core from one state to another, latest first. -/
inductive Traffic {σ : Type} (service : Service) (core : Core σ) (start : σ) :
    List Exchange → σ → Prop where
  | nil : Traffic service core start [] start
  | cons {past : List Exchange} {s : σ} (visit : Visit) (h : Traffic service core start past s) :
      Traffic service core start (visit.exchange service core s :: past)
        (serve service core visit.moment visit.freshId visit.request s).state

/-- Serves visits, latest first, and gives their exchanges and the state afterwards. -/
def serveAll {σ : Type} (service : Service) (core : Core σ) (start : σ) :
    List Visit → List Exchange × σ
  | [] => ([], start)
  | visit :: earlier =>
    let (past, s) := serveAll service core start earlier
    (visit.exchange service core s :: past,
      (serve service core visit.moment visit.freshId visit.request s).state)

/-- The history that exchanges leave behind in the core. Requests that ask nothing leave none. -/
def entries (past : List Exchange) : List Entry :=
  past.filterMap Exchange.recorded?

section

variable {σ : Type} {service : Service} {core : Core σ} {start s : σ} {visit : Visit}
  {past later earlier : List Exchange} {x : Exchange}

/-- Any visits can be served. -/
theorem traffic_serveAll (service : Service) (core : Core σ) (start : σ) (visits : List Visit) :
    Traffic service core start (serveAll service core start visits).1
      (serveAll service core start visits).2 := by
  induction visits with
  | nil => exact .nil
  | cons visit earlier ih => exact ih.cons visit

/-- A core is left by a question as by the call. -/
theorem after_some (core : Core σ) (moment : Moment) (s : σ) (call : Call) :
    core.after moment s (some call) = (core.reply moment call s).2 := by
  cases call <;> rfl

/-- The calls of exchanges are a history of the core. -/
theorem Traffic.history (h : Traffic service core start past s) :
    core.History start (entries past) s := by
  induction h with
  | nil => exact .nil
  | @cons past s visit h ih =>
    rw [serve_state]
    cases hasked : question service visit.request with
    | none =>
      have hquiet : (visit.exchange service core s).recorded? = none := by
        rw [Visit.exchange, hasked, Option.map_none]
      rw [entries, List.filterMap_cons_none hquiet]
      exact ih
    | some call =>
      have hcalled : (visit.exchange service core s).recorded? =
          some ⟨visit.moment, call, (core.reply visit.moment call s).1⟩ := by
        rw [Visit.exchange, hasked, Option.map_some]
      rw [entries, List.filterMap_cons_some hcalled, after_some]
      exact ih.cons visit.moment call

/-- Every exchange is what became of its visit in some state. -/
theorem Traffic.exists_state (h : Traffic service core start past s) (hx : x ∈ past) :
    ∃ s, x = x.visit.exchange service core s := by
  induction h with
  | nil => cases hx
  | cons visit _ ih =>
    rcases List.mem_cons.mp hx with rfl | hx
    · exact ⟨_, rfl⟩
    · exact ih hx

/-- The call of an exchange is among those of all, between those before it and those after it. -/
theorem entries_split {e : Entry} (hentry : x.recorded? = some e) (later earlier : List Exchange) :
    entries (later ++ x :: earlier) = entries later ++ e :: entries earlier := by
  rw [entries, List.filterMap_append, List.filterMap_cons_some hentry]
  rfl

/-- A call of exchanges is that of one of them. -/
theorem exists_exchange_of_mem {e : Entry} (he : e ∈ entries past) :
    ∃ x ∈ past, x.recorded? = some e :=
  List.mem_filterMap.mp he

end

/-! ## A core in memory -/

section

variable {α : Type} {service : Service} {policy : Memory.Policy} {moment : Moment}
  {s : Memory.Store} {visit : Visit} {route : Route} {kind : RequestKind α}
  {ask : α → GrantRequest} {status : Nat} {event : Grant → Option Event} {x : Exchange}
  {token : String}

/-- A core in memory always answers in time. -/
theorem isInTime_memory (policy : Memory.Policy) (moment : Moment) (limit : Option Nat)
    (s : Memory.Store) (call : Option Call) :
    (Memory.core policy).isInTime moment limit 0 s call = true := by
  rcases call with _ | token | request
  · rfl
  all_goals cases limit <;> simp [Core.isInTime, Core.delay, Memory.core, Consultation.isLate,
    Consultation.waited]

/-- What a core in memory says to a request for a grant. -/
theorem answers_memory_grant (policy : Memory.Policy) (moment : Moment) (s : Memory.Store)
    (request : GrantRequest) :
    ((Memory.core policy).answers moment s).grant request =
      (Memory.grant policy moment request s).1 := rfl

/-- A posted request that is told as a success made a call that was answered with a grant, and the
grant is what is told. -/
theorem Route.Posts.granted (h : route.Posts service.desk kind ask status event)
    (hpath : visit.request.path = route.path) (hpost : visit.request.method = "POST")
    (hstatus : (visit.exchange service (Memory.core policy) s).response.status = 200 ∨
      (visit.exchange service (Memory.core policy) s).response.status = 201) :
    ∃ body g, Body.Accepts kind visit.request body ∧
      (visit.exchange service (Memory.core policy) s).recorded? =
        some ⟨visit.moment, .grant (ask body), .grant (.ok g)⟩ ∧
      (visit.exchange service (Memory.core policy) s).response.page = (status, g.view.text) := by
  have hhead : visit.request.method ≠ "HEAD" := by simp [hpost]
  have hoptions : visit.request.method ≠ "OPTIONS" := by simp [hpost]
  cases hshort : Body.isDeclaredTooLong visit.request.headers with
  | true =>
    -- a body that is declared too long is told so before anything else, which is no success
    have hpage := Gateway.page_serve service (Memory.core policy) visit.moment visit.freshId s hhead
      hoptions hpath
    rw [hshort, if_pos rfl] at hpage
    have htold : (visit.exchange service (Memory.core policy) s).response.status = 413 :=
      congrArg Prod.fst hpage
    rw [htold] at hstatus
    exact absurd hstatus (by decide)
  | false =>
    have hpage : (visit.exchange service (Memory.core policy) s).response.page =
        grantPage ((Memory.core policy).answers visit.moment s) ask status
          (Body.checked kind visit.request) :=
      h.page_serve hpath hpost hshort (isInTime_memory policy _ _ s _) visit.freshId
    have htold : (grantPage ((Memory.core policy).answers visit.moment s) ask status
        (Body.checked kind visit.request)).1 = 200 ∨
        (grantPage ((Memory.core policy).answers visit.moment s) ask status
          (Body.checked kind visit.request)).1 = 201 := by
      rw [← hpage]
      exact hstatus
    obtain ⟨body, g, hchecked, hsaid, htold⟩ := exists_grant_of_status htold
    have haccepts : Body.Accepts kind visit.request body := Body.checked_eq_ok_iff.mp hchecked
    refine ⟨body, g, haccepts, ?_, hpage.trans htold⟩
    rw [Visit.exchange, h.service_question hpath hpost hshort, grantQuestion_eq haccepts,
      Option.map_some, Memory.reply_grant, ← answers_memory_grant, hsaid]

/-- A request refreshed a token: it posted the token, and was told a success. -/
structure Exchange.Renews (x : Exchange) (token : String) : Prop where
  path : x.visit.request.path = "/api/v1/auth/refresh"
  posted : x.visit.request.method = "POST"
  body : Body.Accepts RefreshRequest.kind x.visit.request ⟨token⟩
  status : x.response.status = 200

/-- A token that a call spends was refreshed by its request. -/
theorem renews_of_spends {e : Entry}
    (hentry : (visit.exchange service (Memory.core policy) s).recorded? = some e)
    (hspends : e.spends token = true) :
    (visit.exchange service (Memory.core policy) s).Renews token := by
  obtain ⟨call, hasked, rfl⟩ := Option.map_eq_some_iff.mp hentry
  simp only [Entry.spends, Bool.and_eq_true, beq_iff_eq] at hspends
  obtain ⟨rfl, hgranted⟩ := hspends
  obtain ⟨hshort, hprompts⟩ := question_eq_some_iff.mp hasked
  -- only a refresh spends a token, and only a request to refresh prompts one
  cases hprompts with
  | @refresh body path method accepted =>
    refine ⟨path, method, accepted, ?_⟩
    have hpage : (visit.exchange service (Memory.core policy) s).response.page =
        grantPage ((Memory.core policy).answers visit.moment s) _ 200
          (Body.checked RefreshRequest.kind visit.request) :=
      (Route.posts_refresh service.desk).page_serve path method hshort
        (isInTime_memory policy _ _ s _) visit.freshId
    rw [Body.checked_eq_ok_iff.mpr accepted, grantPage, answers_memory_grant] at hpage
    rw [Memory.reply_grant] at hgranted
    cases hsaid : (Memory.grant policy visit.moment (.refresh body.refreshToken) s).1 with
    | error failure =>
      rw [hsaid] at hgranted
      cases hgranted
    | ok g =>
      rw [hsaid] at hpage
      exact congrArg Prod.fst hpage

end

end IdentityGateway.Gateway
