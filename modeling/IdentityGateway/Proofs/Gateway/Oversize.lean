import IdentityGateway.Proofs.Gateway.Grants

/-!
# Bodies beyond the limit

A body of more than a mebibyte is refused on its length alone, and the core is not called. A length
that is declared is refused before the body is read, with a status of its own. A length that is only
found while the body is read is told like any other fault of a body, so that the two refusals of the
same body are not alike.
-/

namespace IdentityGateway.Gateway

open Http (FieldValue Headers Request)

/-! ## Refusals of bodies -/

namespace Body

section

variable {α : Type} {kind : RequestKind α} {request : Request} {headers : Headers}

/-- A length is declared beyond the limit. -/
theorem isDeclaredTooLong_iff :
    isDeclaredTooLong headers = true ↔
      ∃ length, declaredLength? headers = some length ∧ limit < length := by
  simp [isDeclaredTooLong, Option.any_eq_true]

/-- Whatever is declared, no more than the limit is read. -/
theorem readLimit_le_limit (headers : Headers) : readLimit headers ≤ limit :=
  Nat.min_le_left _ _

/-- A body of JSON beyond the limit is refused, whatever it holds. -/
theorem checked_of_oversize (hjson : isDeclaredAsJson request.headers = true)
    (hlong : limit < request.body.length) :
    checked kind request = .error (Refusal.tooLong.failure request.body) := by
  have hread : readLimit request.headers < request.body.length :=
    Nat.lt_of_le_of_lt (readLimit_le_limit request.headers) hlong
  have htooLong : read kind request = .error .tooLong := by
    rw [read, hjson, Bool.not_true, if_neg Bool.false_ne_true, if_pos hread]
  rw [checked, htooLong]

end

end Body

/-- What is told of a length that is found to be beyond the limit. -/
def foundTooLongPage : Nat × String :=
  (400, "\x7b\"message\":\"Validation failed\",\"errors\":\x7b\"body\":" ++
    "[\"Failed to buffer the request body: length limit exceeded\"]\x7d\x7d")

/-- It is the failure of a request whose body is refused as too long. -/
theorem page_tooLong (input : List UInt8) :
    (failureResponse (Body.Refusal.tooLong.failure input)).page = foundTooLongPage := by
  have hfailure : Body.Refusal.tooLong.failure input = .ofErrors
      (.single "body" "Failed to buffer the request body: length limit exceeded") := rfl
  rw [hfailure]
  decide +kernel

/-! ## Requests with such bodies -/

/-- A request that posts a body of JSON beyond the limit to a route that takes bodies. -/
structure PostsOversize (request : Request) : Prop where
  path : request.path ∈
    ["/api/v1/auth/register", "/api/v1/auth/login", "/api/v1/auth/refresh"]
  posted : request.method = "POST"
  json : Body.isDeclaredAsJson request.headers = true
  oversize : 1024 * 1024 < request.body.length

/-- How it is refused: without a call of the core, with a status for it if the length is declared,
and as a fault of the body if not. -/
structure RefusedAsTooLong {σ : Type} (request : Request) (s : σ) (served : Served σ) : Prop where
  calls : served.calls = []
  state : served.state = s
  declared : ∀ length, Body.declaredLength? request.headers = some length →
    1024 * 1024 < length → served.response.page = (413, "length limit exceeded")
  found : (∀ length, Body.declaredLength? request.headers = some length → length ≤ 1024 * 1024) →
    served.response.page = foundTooLongPage

section

variable {α σ : Type} {service : Service} {core : Core σ} {moment : Moment} {s : σ}
  {request : Request} {route : Route} {kind : RequestKind α} {ask : α → GrantRequest}
  {status : Nat} {event : Grant → Option Event}

/-- A body whose length is not declared is told as a fault of the body. -/
theorem RefusedAsTooLong.status_of_undeclared {served : Served σ}
    (h : RefusedAsTooLong request s served)
    (hnone : Body.declaredLength? request.headers = none) : served.response.status = 400 := by
  have hpage : served.response.page = foundTooLongPage := by
    refine h.found ?_
    intro length hlength
    cases hnone.symm.trans hlength
  exact congrArg Prod.fst hpage

/-- The body of such a request gives no question. -/
theorem PostsOversize.grantQuestion_eq_none (h : PostsOversize request) :
    grantQuestion kind request ask = none := by
  rw [grantQuestion, Body.checked_of_oversize h.json h.oversize]
  rfl

/-- The core is asked nothing about such a request. -/
theorem Route.Posts.question_of_oversize (hposts : route.Posts service.desk kind ask status event)
    (hpath : request.path = route.path) (h : PostsOversize request) :
    Gateway.question service request = none := by
  cases hlong : Body.isDeclaredTooLong request.headers with
  | true => rw [Gateway.question, hlong, if_pos rfl]
  | false => rw [hposts.service_question hpath h.posted hlong, h.grantQuestion_eq_none]

/-- What is told of such a request. -/
theorem Route.Posts.page_of_oversize (hposts : route.Posts service.desk kind ask status event)
    (hpath : request.path = route.path) (h : PostsOversize request) (freshId : FieldValue) :
    (serve service core moment freshId request s).response.page =
      if Body.isDeclaredTooLong request.headers then tooLong.page else foundTooLongPage := by
  cases hlong : Body.isDeclaredTooLong request.headers with
  | true =>
    have hhead : request.method ≠ "HEAD" := by simp [h.posted]
    have hoptions : request.method ≠ "OPTIONS" := by simp [h.posted]
    rw [Gateway.page_serve service core moment freshId s hhead hoptions hpath, hlong]
    rfl
  | false =>
    have hintime : core.isInTime moment (some service.timeLimit) 0 s
        (grantQuestion kind request ask) = true := by
      rw [h.grantQuestion_eq_none]
      rfl
    rw [hposts.page_serve hpath h.posted hlong hintime, Body.checked_of_oversize h.json h.oversize,
      grantPage, page_tooLong]
    rfl

/-- A route that takes bodies refuses such a request. -/
theorem Route.Posts.refused (hposts : route.Posts service.desk kind ask status event)
    (hpath : request.path = route.path) (h : PostsOversize request) (core : Core σ)
    (moment : Moment) (freshId : FieldValue) (s : σ) :
    RefusedAsTooLong request s (serve service core moment freshId request s) := by
  have hquestion := hposts.question_of_oversize hpath h
  have hpage : (serve service core moment freshId request s).response.page =
      if Body.isDeclaredTooLong request.headers then tooLong.page else foundTooLongPage :=
    hposts.page_of_oversize hpath h freshId
  constructor
  case calls =>
    rw [serve_calls, hquestion]
    rfl
  case state =>
    rw [serve_state, hquestion]
    rfl
  case declared =>
    intro length hlength hlong
    rw [hpage, if_pos (Body.isDeclaredTooLong_iff.mpr ⟨length, hlength, hlong⟩)]
    rfl
  case found =>
    intro hshort
    have hdeclared : Body.isDeclaredTooLong request.headers ≠ true := by
      rw [ne_eq, Body.isDeclaredTooLong_iff]
      rintro ⟨length, hlength, hlong⟩
      exact absurd hlong (Nat.not_lt.mpr (hshort length hlength))
    rw [hpage, if_neg hdeclared]

/-- **Bodies beyond the limit.** Whatever the service and the core, a body of JSON of more than a
mebibyte is refused by every route that takes bodies, and the core is not called. -/
theorem oversize_refused (service : Service) (core : Core σ) (moment : Moment)
    (freshId : FieldValue) (s : σ) (h : PostsOversize request) :
    RefusedAsTooLong request s (serve service core moment freshId request s) := by
  obtain hregister | hlogin | hrefresh : request.path = Route.register.path ∨
      request.path = Route.login.path ∨ request.path = Route.refresh.path := by
    simpa [Route.path] using h.path
  · exact (Route.posts_register service.desk).refused hregister h core moment freshId s
  · exact (Route.posts_login service.desk).refused hlogin h core moment freshId s
  · exact (Route.posts_refresh service.desk).refused hrefresh h core moment freshId s

end

/-! ## One body, with its length declared or not -/

/-- A login with a body of one byte more than the limit. -/
def oversizeLogin (more : Headers) : Request :=
  ⟨"POST", "/api/v1/auth/login", ("content-type", Http.asciiBytes "application/json") :: more,
    List.replicate (1024 * 1024 + 1) 0x78⟩

/-- It is a request with a body beyond the limit, whether it declares the length or not. -/
theorem postsOversize_oversizeLogin (more : Headers) : PostsOversize (oversizeLogin more) where
  path := List.mem_cons_of_mem _ List.mem_cons_self
  posted := rfl
  json := (by decide : Http.MediaType.isJson (Http.asciiBytes "application/json") = true)
  oversize := by
    rw [oversizeLogin, List.length_replicate]
    exact Nat.lt_succ_self _

/-- With the length declared it is refused for its length. -/
theorem oversize_refused_declared :
    let request := oversizeLogin [("content-length", Http.asciiBytes "1048577")]
    let served := serve cookieService (Scripted.core slowScript) firstMoment [] request {}
    Body.declaredLength? request.headers = some 1048577 ∧ served.calls = [] ∧
      served.response.page = (413, "length limit exceeded") := by
  intro request served
  have hlength : Body.declaredLength? request.headers = some 1048577 :=
    (by decide : Body.declaredLength? [("content-type", Http.asciiBytes "application/json"),
      ("content-length", Http.asciiBytes "1048577")] = some 1048577)
  have hrefused := oversize_refused cookieService (Scripted.core slowScript) firstMoment [] {}
    (postsOversize_oversizeLogin [("content-length", Http.asciiBytes "1048577")])
  exact ⟨hlength, hrefused.calls, hrefused.declared 1048577 hlength (by decide)⟩

/-- Without, the same body is told as a fault of the body. -/
theorem status_ne_of_undeclared :
    let request := oversizeLogin []
    let served := serve cookieService (Scripted.core slowScript) firstMoment [] request {}
    PostsOversize request ∧ served.response.status = 400 ∧ served.response.status ≠ 413 := by
  intro request served
  have hposts := postsOversize_oversizeLogin []
  have hrefused : RefusedAsTooLong request {} served :=
    (Route.posts_login cookieService.desk).refused rfl hposts _ _ _ _
  have hnone : Body.declaredLength? request.headers = none :=
    (by decide : Body.declaredLength?
      [("content-type", Http.asciiBytes "application/json")] = none)
  have hstatus : served.response.status = 400 := hrefused.status_of_undeclared hnone
  have hother : (400 : Nat) ≠ 413 := by decide
  exact ⟨hposts, hstatus, fun hlength => hother (hstatus.symm.trans hlength)⟩

end IdentityGateway.Gateway
