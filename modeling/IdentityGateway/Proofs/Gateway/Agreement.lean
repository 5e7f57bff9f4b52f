import IdentityGateway.Proofs.Gateway.Questions

/-!
# Agreement on identities

The session answer welcomes an identity, and the user's own record is behind the guard. As the
two find the same, they tell the same about a request: who it is, that it is nobody, or why it
cannot be answered.
-/

namespace IdentityGateway

open Http (FieldValue Headers Request Response)
open Json (Value)

/-- What a response tells besides its headers. -/
def Http.Response.page (response : Response) : Nat × String :=
  (response.status, response.body)

/-- What is told of a core's failure. -/
def CoreFailure.page (failure : CoreFailure) : Nat × String :=
  (Gateway.failureResponse (.ofCore failure)).page

namespace Gateway

/-- The session answer about some user. -/
def somebodyPage (user : Value) : Nat × String :=
  (200, (Value.object [("authenticated", .bool true), ("user", user)]).text)

/-- The session answer about nobody. -/
def nobodyPage : Nat × String :=
  (200, (Value.object [("authenticated", .bool false), ("user", .null)]).text)

/-- The refusal of a request for what its credential is. -/
def refusalPage (credential : Option Credential) : Nat × String :=
  (401, (Value.object [("message", .string (Access.refusalMessage credential))]).text)

/-- The session answer and the user's own record tell the same about a request with some
headers, whose credential the core is asked about. -/
structure PagesAgree {σ : Type} (service : Service) (core : Core σ) (moment : Moment) (s : σ)
    (headers : Headers) (session me : Nat × String) : Prop where
  /-- The session answer is about a user exactly if the record is that user. -/
  somebody : ∀ user : Value, session = somebodyPage user ↔ me = (200, user.text)
  /-- The session answer is about nobody exactly if the record is refused for what the
  credential is. -/
  nobody : session = nobodyPage ↔
    me = refusalPage (Credential.extract headers service.desk.cookieName)
  /-- The record is unauthorized for no other reason, unless the core says so of the token. -/
  unauthorized : (∀ c, Credential.extract headers service.desk.cookieName = some c →
      (core.answers moment s).lookup c.token ≠ .error .invalidCredentials) →
    (me.1 = 401 ↔ session = nobodyPage)
  /-- Otherwise both are refused alike. -/
  otherwise : (∃ user, session = somebodyPage user) ∨ session = nobodyPage ∨
    session = me ∧ me.1 ≠ 200
  /-- Without a credential the session answer is about nobody, unless the declared length is
  beyond its limit. -/
  anonymous : Credential.extract headers service.desk.cookieName = none →
    Body.isDeclaredTooLong headers = false → session = nobodyPage
  /-- With one it is as the core says, unless the declared length or the time is beyond its
  limit. -/
  answered : ∀ c, Credential.extract headers service.desk.cookieName = some c →
    Body.isDeclaredTooLong headers = false →
    core.isInTime moment (some service.timeLimit) 0 s (some (.lookup c.token)) = true →
      match (core.answers moment s).lookup c.token with
      | .error failure => session = failure.page ∧ me = failure.page
      | .ok none => session = nobodyPage
      | .ok (some u) => session = somebodyPage u.view

/-- What is told of a request that is refused, or of what it gave. -/
def toldPage {α : Type} (view : α → Value) : Except RequestFailure α → Nat × String
  | .error failure => (failureResponse failure).page
  | .ok a => (200, (view a).text)

/-- What the session answer and the user's own record may tell of a request with a credential,
as a core answers. -/
inductive Told (lookup : String → LookupResult) (credential : Option Credential) :
    Nat × String → Nat × String → Prop where
  | somebody (u : Identity) :
      Told lookup credential (toldPage sessionView (.ok (some u))) (200, u.view.text)
  | nobody : Told lookup credential nobodyPage (refusalPage credential)
  | refused {page : Nat × String} (status : page.1 ≠ 200) (message : page ≠ refusalPage credential)
      (unauthorized : page.1 = 401 →
        ∃ c, credential = some c ∧ lookup c.token = .error .invalidCredentials) :
      Told lookup credential page page

section

variable {α σ : Type} {answers : Answers} {desk : Access.Desk} {request : Request}
  {response : Response} {route : Route}

/-! ## Pages -/

private theorem page_orFailure (r : Except RequestFailure α) (view : α → Value) :
    ((orFailure r fun a => return .json 200 (view a)).result answers).page = toldPage view r := by
  cases r <;> rfl

/-- The session answer tells what is found where an identity is welcome. -/
theorem page_session (desk : Access.Desk) (request : Request) :
    ((session desk request).result answers).page = toldPage sessionView
      (Access.finding answers.lookup
        (Credential.extract request.headers desk.cookieName)).welcome := by
  rw [session, Consultation.result_bind, page_orFailure, Access.result_welcome]

/-- A session answer that is got is the one that the route gives. -/
theorem answerRoute_session (hget : request.method = "GET") :
    answerRoute desk .session request = session desk request := by
  have hanswers : Route.session.answers request.method = true := by
    rw [hget]
    rfl
  change (if !Route.session.answers request.method then return wrongMethod
    else session desk request) = _
  simp [hanswers]

/-- A record that is got is told by what stands behind the guard. -/
theorem answerRoute_me (hget : request.method = "GET") :
    answerRoute desk .me request =
      Access.guarded desk request.headers >>= fun r =>
        orFailure r fun u => me desk (some u) request := by
  have hanswers : Route.me.answers request.method = true := by
    rw [hget]
    rfl
  change (Access.guarded desk request.headers >>= fun r => orFailure r fun u =>
    if Route.me.answers request.method then me desk (some u) request else return wrongMethod) = _
  simp [hanswers]

/-- The guard and what stands behind it tell what is found where an identity is required. -/
theorem page_me (hget : request.method = "GET") :
    ((answerRoute desk .me request).result answers).page = toldPage Identity.view
      (Access.finding answers.lookup
        (Credential.extract request.headers desk.cookieName)).required := by
  rw [answerRoute_me hget, Consultation.result_bind, Access.result_guarded]
  cases (Access.finding answers.lookup
    (Credential.extract request.headers desk.cookieName)).required <;> rfl

/-- The last touch leaves what is told, except to HEAD. -/
theorem page_finish (hmethod : request.method ≠ "HEAD") :
    (finish request response).page = response.page := by
  unfold finish
  cases Route.ofPath? request.path with
  | none => rfl
  | some route => simp [hmethod, Response.page]

/-- A response tells that the declared length is beyond the limit, that the time is up, or what the
route answers, except to HEAD and to a question about origins. -/
theorem page_serve (service : Service) (core : Core σ) (moment : Moment) (freshId : FieldValue)
    (s : σ) (hhead : request.method ≠ "HEAD") (hoptions : request.method ≠ "OPTIONS")
    (hpath : request.path = route.path) :
    (serve service core moment freshId request s).response.page =
      if Body.isDeclaredTooLong request.headers then tooLong.page
      else if core.isInTime moment (some service.timeLimit) 0 s
          (route.question service.desk request) then
        ((answerRoute service.desk route request).result (core.answers moment s)).page
      else (Response.empty 408).page := by
  rw [serve_response, page_finish hhead]
  unfold question answerWithId answerInTime answerPath
  rw [Route.ofPath?_eq_some_iff.mpr hpath]
  cases Body.isDeclaredTooLong request.headers with
  | true => rfl
  | false =>
    simp only [Bool.false_eq_true, if_false, if_neg hoptions, Option.bind_some,
      Consultation.result_bind]
    cases core.isInTime moment (some service.timeLimit) 0 s
      (route.question service.desk request) <;> rfl

/-! ## What tells pages apart -/

/-- Session answers tell the same exactly if they have the same flag and the same user. -/
theorem text_session_eq_iff {b c : Bool} {v w : Value} :
    (Value.object [("authenticated", .bool b), ("user", v)]).text =
        (Value.object [("authenticated", .bool c), ("user", w)]).text ↔
      b = c ∧ v.text = w.text := by
  simp only [Value.text, String.ofList_inj]
  cases b <;> cases c <;> simp [Value.chars, Value.memberChars, Json.separator]

/-- The session answer about a user is the one about a user who is told the same. -/
theorem toldPage_eq_somebodyPage_iff {u : Identity} {user : Value} :
    toldPage sessionView (.ok (some u)) = somebodyPage user ↔ u.view.text = user.text := by
  simp [toldPage, sessionView, somebodyPage, text_session_eq_iff]

/-- The session answer about a user is not the one about nobody. -/
theorem toldPage_ne_nobodyPage (u : Identity) :
    toldPage sessionView (.ok (some u)) ≠ nobodyPage := by
  simp [toldPage, sessionView, nobodyPage, text_session_eq_iff]

/-- The session answer about nobody is not about a user. -/
theorem nobodyPage_ne_somebodyPage (user : Value) : nobodyPage ≠ somebodyPage user := by
  simp [nobodyPage, somebodyPage, text_session_eq_iff]

/-- No failure is told with the status of an answer. -/
theorem status_failure_ne (failure : RequestFailure) : (failureResponse failure).page.1 ≠ 200 := by
  cases failure <;> simp [failureResponse, Response.json, Response.page, RequestFailure.status]

/-- A core's failure is told as unauthorized only if the core says so of a token. -/
theorem page_fst_eq_iff {failure : CoreFailure} :
    failure.page.1 = 401 ↔ failure = .invalidCredentials :=
  Access.status_ofCore_eq_iff

/-- A core's failure is not told like a refused credential. -/
theorem page_ne_refusalPage (failure : CoreFailure) (credential : Option Credential) :
    failure.page ≠ refusalPage credential := by
  intro htold
  -- only one failure has the status of a refusal, and its message is another
  obtain rfl := page_fst_eq_iff.mp (congrArg Prod.fst htold)
  have hbody := congrArg Prod.snd htold
  cases credential with
  | none => exact absurd hbody (by decide)
  | some c =>
    have hother : CoreFailure.invalidCredentials.page.2 ≠
        (Value.object [("message", .string "invalid or expired token")]).text := by decide
    exact hother hbody

/-- What a request is told if nobody is found where an identity is required. -/
theorem toldPage_nobody {lookup : String → LookupResult} {credential : Option Credential}
    {reason : RefusalReason} (hfound : Access.finding lookup credential = .nobody reason)
    (view : α → Value) :
    toldPage view (.error (.ofRefusal reason)) = refusalPage credential := by
  rw [toldPage, RequestFailure.ofRefusal, Access.message_of_finding hfound]
  rfl

end

/-! ## Agreement -/

/-- The two tell what is found. -/
theorem told_found (lookup : String → LookupResult) (credential : Option Credential) :
    Told lookup credential (toldPage sessionView (Access.finding lookup credential).welcome)
      (toldPage Identity.view (Access.finding lookup credential).required) := by
  cases hfound : Access.finding lookup credential with
  | somebody u => exact .somebody u
  | nobody reason =>
    rw [Access.Finding.required, toldPage_nobody hfound]
    exact .nobody
  | trouble failure =>
    obtain ⟨c, hcredential, hsaid⟩ := Access.finding_eq_trouble_iff.mp hfound
    refine .refused (status_failure_ne _) (page_ne_refusalPage failure credential) ?_
    intro hstatus
    exact ⟨c, hcredential, by rw [hsaid, page_fst_eq_iff.mp hstatus]⟩

/-- The two tell the same of a request that is ended before its identity is found. -/
theorem told_ended (lookup : String → LookupResult) (credential : Option Credential)
    {page : Nat × String} (hstatus : page.1 ≠ 200) (hother : page.1 ≠ 401) :
    Told lookup credential page page := by
  refine .refused hstatus ?_ fun hunauthorized => absurd hunauthorized hother
  rintro rfl
  exact hother rfl

section

variable {lookup : String → LookupResult} {credential : Option Credential}
  {session me : Nat × String}

/-- The session answer is about a user exactly if the record is that user. -/
theorem Told.somebody_iff (h : Told lookup credential session me) (user : Value) :
    session = somebodyPage user ↔ me = (200, user.text) := by
  cases h with
  | somebody u =>
    rw [toldPage_eq_somebodyPage_iff]
    simp
  | nobody => simp [nobodyPage_ne_somebodyPage, refusalPage]
  | refused status _ _ =>
    constructor
    · intro hsession
      exact absurd (congrArg Prod.fst hsession) status
    · intro hme
      exact absurd (congrArg Prod.fst hme) status

/-- The session answer is about nobody exactly if the record is refused for what the credential
is. -/
theorem Told.nobody_iff (h : Told lookup credential session me) :
    session = nobodyPage ↔ me = refusalPage credential := by
  cases h with
  | somebody u => simp [toldPage_ne_nobodyPage, refusalPage]
  | nobody => simp
  | refused status message _ =>
    constructor
    · intro hsession
      exact absurd (congrArg Prod.fst hsession) status
    · intro hme
      exact absurd hme message

/-- The record is unauthorized exactly if the session answer is about nobody, unless the core
says so of the token. -/
theorem Told.unauthorized_iff (h : Told lookup credential session me)
    (hother : ∀ c, credential = some c → lookup c.token ≠ .error .invalidCredentials) :
    me.1 = 401 ↔ session = nobodyPage := by
  rw [h.nobody_iff]
  cases h with
  | somebody u => simp [refusalPage]
  | nobody => simp [refusalPage]
  | refused _ message unauthorized =>
    constructor
    · intro hstatus
      obtain ⟨c, hcredential, hsaid⟩ := unauthorized hstatus
      exact absurd hsaid (hother c hcredential)
    · intro hme
      exact absurd hme message

/-- What is neither about a user nor about nobody is refused alike. -/
theorem Told.otherwise (h : Told lookup credential session me) :
    (∃ user, session = somebodyPage user) ∨ session = nobodyPage ∨ session = me ∧ me.1 ≠ 200 := by
  cases h with
  | somebody u => exact .inl ⟨u.view, rfl⟩
  | nobody => exact .inr (.inl rfl)
  | refused status _ _ => exact .inr (.inr ⟨rfl, status⟩)

end

section

variable {σ : Type} {core : Core σ} {m₁ m₂ m₃ : Moment} {s₁ s₂ s₃ : σ}

/-- Whether the answer about an identity comes in time depends only on how long the core takes
for look-ups. -/
theorem isInTime_question_eq (desk : Access.Desk) (headers : Headers) (limit : Option Nat)
    (hdelay : ∀ token, core.delay m₂ s₂ (.lookup token) = core.delay m₁ s₁ (.lookup token)) :
    core.isInTime m₂ limit 0 s₂ (Access.question desk headers) =
      core.isInTime m₁ limit 0 s₁ (Access.question desk headers) := by
  unfold Access.question
  cases Credential.extract headers desk.cookieName with
  | none => rfl
  | some c => simp only [Option.map_some, Core.isInTime, hdelay]

/-- What is told of a request for an identity, if nothing ends the request before. -/
def unlessEnded (service : Service) (core : Core σ) (moment : Moment) (s : σ) (headers : Headers)
    (page : Nat × String) : Nat × String :=
  if Body.isDeclaredTooLong headers then tooLong.page
  else if core.isInTime moment (some service.timeLimit) 0 s
      (Access.question service.desk headers) then page
  else (Response.empty 408).page

/-- The session answer that is served. -/
theorem page_serve_session (service : Service) (core : Core σ) (moment : Moment)
    (freshId : FieldValue) (headers : Headers) (body : List UInt8) (s : σ) :
    (serve service core moment freshId ⟨"GET", "/api/v1/auth/session", headers, body⟩
        s).response.page =
      unlessEnded service core moment s headers (toldPage sessionView
        (Access.finding (core.answers moment s).lookup
          (Credential.extract headers service.desk.cookieName)).welcome) := by
  have hpath : "/api/v1/auth/session" = Route.session.path := rfl
  have hhead : "GET" ≠ "HEAD" := by decide
  have hoptions : "GET" ≠ "OPTIONS" := by decide
  rw [page_serve service core moment freshId s hhead hoptions hpath, answerRoute_session rfl,
    page_session]
  rfl

/-- The user's own record that is served. -/
theorem page_serve_me (service : Service) (core : Core σ) (moment : Moment)
    (freshId : FieldValue) (headers : Headers) (body : List UInt8) (s : σ) :
    (serve service core moment freshId ⟨"GET", "/api/v1/users/me", headers, body⟩
        s).response.page =
      unlessEnded service core moment s headers (toldPage Identity.view
        (Access.finding (core.answers moment s).lookup
          (Credential.extract headers service.desk.cookieName)).required) := by
  have hpath : "/api/v1/users/me" = Route.me.path := rfl
  have hhead : "GET" ≠ "HEAD" := by decide
  have hoptions : "GET" ≠ "OPTIONS" := by decide
  rw [page_serve service core moment freshId s hhead hoptions hpath, page_me rfl]
  rfl

/-- What ends a request before its identity is found is told of both. -/
theorem told_unlessEnded {lookup : String → LookupResult} {credential : Option Credential}
    {session me : Nat × String} (service : Service) (core : Core σ) (moment : Moment) (s : σ)
    (headers : Headers) (h : Told lookup credential session me) :
    Told lookup credential (unlessEnded service core moment s headers session)
      (unlessEnded service core moment s headers me) := by
  unfold unlessEnded
  split
  · exact told_ended lookup credential (by decide) (by decide)
  · split
    · exact h
    · exact told_ended lookup credential (by decide) (by decide)

/-- The session answer and the record agree, if the core says the same to both and takes the
same time. -/
theorem pages_agree (service : Service) (headers : Headers)
    (hsame : (core.answers m₂ s₂).lookup = (core.answers m₁ s₁).lookup)
    (hdelay : ∀ token, core.delay m₂ s₂ (.lookup token) = core.delay m₁ s₁ (.lookup token))
    (id₁ id₂ : FieldValue) (body₁ body₂ : List UInt8) :
    PagesAgree service core m₁ s₁ headers
      (serve service core m₁ id₁ ⟨"GET", "/api/v1/auth/session", headers, body₁⟩ s₁).response.page
      (serve service core m₂ id₂ ⟨"GET", "/api/v1/users/me", headers, body₂⟩
        s₂).response.page := by
  have hended : unlessEnded service core m₂ s₂ headers =
      unlessEnded service core m₁ s₁ headers := by
    unfold unlessEnded
    rw [isInTime_question_eq service.desk headers _ hdelay]
  rw [page_serve_session, page_serve_me, hsame, hended]
  have htold := told_unlessEnded service core m₁ s₁ headers
    (told_found (core.answers m₁ s₁).lookup
      (Credential.extract headers service.desk.cookieName))
  constructor
  case somebody => exact htold.somebody_iff
  case nobody => exact htold.nobody_iff
  case unauthorized => exact htold.unauthorized_iff
  case otherwise => exact htold.otherwise
  case anonymous =>
    intro hnone hlength
    simp only [unlessEnded, hlength, Access.question, hnone, Option.map_none, Core.isInTime,
      Bool.false_eq_true, if_false, if_true, Access.finding]
    rfl
  case answered =>
    intro c hcredential hlength hintime
    simp only [unlessEnded, hlength, Access.question, hcredential, Option.map_some, hintime,
      Bool.false_eq_true, if_false, if_true, Access.finding]
    rcases (core.answers m₁ s₁).lookup c.token with failure | _ | u
    · exact ⟨rfl, rfl⟩
    · rfl
    · rfl

/-- **Agreement.** Where an identity is required, where it is welcome and through the guard, a
request asks the core the same and finds the same, if the core says the same to each: the same
user, the same failure, or nobody, whom only the first and the last refuse. So, if the core takes
the same time, the session answer is about a user exactly if the user's own record is that user,
and about nobody exactly if the record is refused; otherwise they tell the same. -/
theorem resolutions_agree (service : Service) (core : Core σ) (headers : Headers)
    (m₁ m₂ m₃ : Moment) (s₁ s₂ s₃ : σ)
    (hsecond : (core.answers m₂ s₂).lookup = (core.answers m₁ s₁).lookup)
    (hthird : (core.answers m₃ s₃).lookup = (core.answers m₁ s₁).lookup) :
    Access.PathsAgree (Credential.extract headers service.desk.cookieName)
        (core.answers m₁ s₁).lookup
        ((Access.required service.desk none headers).run core m₁ none 0 s₁)
        ((Access.welcome service.desk none headers).run core m₂ none 0 s₂)
        ((Access.guarded service.desk headers).run core m₃ none 0 s₃) ∧
      ((∀ token, core.delay m₃ s₃ (.lookup token) = core.delay m₂ s₂ (.lookup token)) →
        ∀ id₂ id₃ body₂ body₃, PagesAgree service core m₂ s₂ headers
          (serve service core m₂ id₂ ⟨"GET", "/api/v1/auth/session", headers, body₂⟩
            s₂).response.page
          (serve service core m₃ id₃ ⟨"GET", "/api/v1/users/me", headers, body₃⟩
            s₃).response.page) := by
  constructor
  · exact Access.paths_agree service.desk headers hsecond hthird
  · intro hdelay id₂ id₃ body₂ body₃
    exact pages_agree service headers (hthird.trans hsecond.symm) hdelay id₂ id₃ body₂ body₃

end

/-! ## A user with a cookie -/

/-- Whom the counting core knows by the token `a`, which the sample request sends in its cookie. -/
def cookieUser : Identity where
  id := .number 7
  email := "ada@x.org"
  name := none
  emailVerified := true
  createdAt := ⟨0, 0⟩
  updatedAt := ⟨0, 0⟩
  passwordHash := none

/-- A core that counts its calls, knows the user of one token, and grants nothing. -/
def countingCore : Core Nat where
  name := "counting"
  lookup _ token n := (⟨.ok (if token = "a" then some cookieUser else none), 5⟩, n + 1)
  grant _ _ n := (⟨.error (.unavailable "closed"), 0⟩, n + 1)

/-- The core says the same each time it is asked, and the session answer is about the user whose
record is told. -/
theorem resolutions_agree_countingCore :
    (countingCore.answers firstMoment 1).lookup = (countingCore.answers firstMoment 0).lookup ∧
      (countingCore.answers firstMoment 2).lookup = (countingCore.answers firstMoment 0).lookup ∧
      (∀ token, countingCore.delay firstMoment 2 (.lookup token) =
        countingCore.delay firstMoment 1 (.lookup token)) ∧
      ((Access.welcome cookieService.desk none cookieRequest.headers).run countingCore firstMoment
        none 0 1).outcome = some (.ok (some cookieUser)) ∧
      (serve cookieService countingCore firstMoment [] ⟨"GET", "/api/v1/auth/session",
        cookieRequest.headers, []⟩ 1).response.page = somebodyPage cookieUser.view := by
  have hsecond : (countingCore.answers firstMoment 1).lookup =
      (countingCore.answers firstMoment 0).lookup := rfl
  have hthird : (countingCore.answers firstMoment 2).lookup =
      (countingCore.answers firstMoment 0).lookup := rfl
  have hdelay : ∀ token, countingCore.delay firstMoment 2 (.lookup token) =
      countingCore.delay firstMoment 1 (.lookup token) := fun _ => rfl
  obtain ⟨hpaths, hpages⟩ := resolutions_agree cookieService countingCore cookieRequest.headers
    firstMoment firstMoment firstMoment 0 1 2 hsecond hthird
  have hrequired : ((Access.required cookieService.desk none cookieRequest.headers).run
      countingCore firstMoment none 0 0).outcome = some (.ok cookieUser) := by rfl
  have hme : (serve cookieService countingCore firstMoment [] ⟨"GET", "/api/v1/users/me",
      cookieRequest.headers, []⟩ 2).response.page = (200, cookieUser.view.text) := by rfl
  exact ⟨hsecond, hthird, hdelay, (hpaths.somebody cookieUser).1.mp hrequired,
    ((hpages hdelay [] [] [] []).somebody cookieUser.view).mpr hme⟩

end Gateway

end IdentityGateway
