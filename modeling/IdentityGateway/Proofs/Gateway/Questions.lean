import IdentityGateway.Core.Scripted
import IdentityGateway.Proofs.Gateway.Body
import IdentityGateway.Proofs.Gateway.Serving

/-!
# What requests ask of the core

A request asks the core at most once. It asks whose token its credential is where an identity is
required or welcome, and for a grant once its body is accepted. The guard of the user's own
record asks, and the answer behind the guard does not ask again.
-/

namespace IdentityGateway.Gateway

open Http (FieldValue Headers Request)

/-- The calls that a request prompts, unless its declared length is beyond the limit. -/
inductive Prompts (cookieName : String) (request : Request) : Call → Prop where
  /-- The guard of the user's own record stands there whatever the method, but questions about
  origins are answered before it. -/
  | me {credential : Credential} (path : request.path = "/api/v1/users/me")
      (method : request.method ≠ "OPTIONS")
      (found : Credential.extract request.headers cookieName = some credential) :
      Prompts cookieName request (.lookup credential.token)
  | session {credential : Credential} (path : request.path = "/api/v1/auth/session")
      (method : request.method = "GET" ∨ request.method = "HEAD")
      (found : Credential.extract request.headers cookieName = some credential) :
      Prompts cookieName request (.lookup credential.token)
  | login {body : LoginRequest} (path : request.path = "/api/v1/auth/login")
      (method : request.method = "POST") (accepted : Body.Accepts LoginRequest.kind request body) :
      Prompts cookieName request (.grant (.login (Text.trim body.email) body.password))
  | register {body : RegisterRequest} (path : request.path = "/api/v1/auth/register")
      (method : request.method = "POST")
      (accepted : Body.Accepts RegisterRequest.kind request body) :
      Prompts cookieName request (.grant (.register body.account))
  | refresh {body : RefreshRequest} (path : request.path = "/api/v1/auth/refresh")
      (method : request.method = "POST")
      (accepted : Body.Accepts RefreshRequest.kind request body) :
      Prompts cookieName request (.grant (.refresh body.refreshToken))

section

variable {α σ : Type} {desk : Access.Desk} {request : Request} {route : Route} {call : Call}
  {service : Service}

/-! ## What prompts a question -/

/-- The question for an identity is about the credential that was found. -/
theorem access_question_eq_some_iff : Access.question desk request.headers = some call ↔
    ∃ credential, Credential.extract request.headers desk.cookieName = some credential ∧
      .lookup credential.token = call := by
  simp [Access.question]

/-- The question for a grant is about the body that is accepted. -/
theorem grantQuestion_eq_some_iff {kind : RequestKind α} {ask : α → GrantRequest} :
    grantQuestion kind request ask = some call ↔
      ∃ body, Body.Accepts kind request body ∧ .grant (ask body) = call := by
  simp only [grantQuestion, Option.map_eq_some_iff, ← Body.checked_eq_ok_iff]
  cases Body.checked kind request <;> simp [Except.toOption]

/-- The session answer asks for an identity when it is got or looked at. -/
theorem session_question_eq_some_iff : Route.session.question desk request = some call ↔
    (request.method = "GET" ∨ request.method = "HEAD") ∧
      ∃ credential, Credential.extract request.headers desk.cookieName = some credential ∧
        .lookup credential.token = call := by
  simp [Route.question, Route.ownQuestion, Route.answers, Route.isPost,
    access_question_eq_some_iff]

/-- A route that takes bodies asks for a grant when an accepted one is posted. -/
theorem post_question_eq_some_iff {kind : RequestKind α} {ask : α → GrantRequest}
    (hpost : route.isPost = true)
    (hown : route.ownQuestion desk request = grantQuestion kind request ask) :
    route.question desk request = some call ↔
      request.method = "POST" ∧
        ∃ body, Body.Accepts kind request body ∧ .grant (ask body) = call := by
  have hquestion : route.question desk request =
      if route.answers request.method then route.ownQuestion desk request else none := by
    cases route with
    | me => cases hpost
    | _ => rfl
  rw [hquestion, Option.ite_none_right_eq_some, hown, grantQuestion_eq_some_iff]
  simp [Route.answers, hpost]

/-- A question that a route asks is one that the method and the body of the request prompt there. -/
theorem Route.prompts_of_question (hpath : request.path = route.path)
    (hmethod : request.method ≠ "OPTIONS") (hasked : route.question desk request = some call) :
    Prompts desk.cookieName request call := by
  cases route with
  | health =>
    obtain ⟨_, hown⟩ := Option.ite_none_right_eq_some.mp hasked
    cases hown
  | register =>
    obtain ⟨hpost, body, haccepted, rfl⟩ := (post_question_eq_some_iff rfl rfl).mp hasked
    exact .register hpath hpost haccepted
  | login =>
    obtain ⟨hpost, body, haccepted, rfl⟩ := (post_question_eq_some_iff rfl rfl).mp hasked
    exact .login hpath hpost haccepted
  | refresh =>
    obtain ⟨hpost, body, haccepted, rfl⟩ := (post_question_eq_some_iff rfl rfl).mp hasked
    exact .refresh hpath hpost haccepted
  | session =>
    obtain ⟨hget, credential, hfound, rfl⟩ := session_question_eq_some_iff.mp hasked
    exact .session hpath hget hfound
  | me =>
    obtain ⟨credential, hfound, rfl⟩ := access_question_eq_some_iff.mp hasked
    exact .me hpath hmethod hfound

/-- Whatever a request prompts is asked by the route at its path. -/
theorem Prompts.exists_route (h : Prompts desk.cookieName request call) :
    ∃ route : Route, request.path = route.path ∧ request.method ≠ "OPTIONS" ∧
      route.question desk request = some call := by
  cases h with
  | me path method found =>
    exact ⟨.me, path, method, access_question_eq_some_iff.mpr ⟨_, found, rfl⟩⟩
  | session path method found =>
    have hmethod : request.method ≠ "OPTIONS" := by
      rcases method with hget | hhead
      · simp [hget]
      · simp [hhead]
    exact ⟨.session, path, hmethod, session_question_eq_some_iff.mpr ⟨method, _, found, rfl⟩⟩
  | login path method accepted =>
    exact ⟨.login, path, by simp [method],
      (post_question_eq_some_iff rfl rfl).mpr ⟨method, _, accepted, rfl⟩⟩
  | register path method accepted =>
    exact ⟨.register, path, by simp [method],
      (post_question_eq_some_iff rfl rfl).mpr ⟨method, _, accepted, rfl⟩⟩
  | refresh path method accepted =>
    exact ⟨.refresh, path, by simp [method],
      (post_question_eq_some_iff rfl rfl).mpr ⟨method, _, accepted, rfl⟩⟩

/-- The service asks what is prompted, unless the declared length is beyond the limit. -/
theorem question_eq_some_iff : question service request = some call ↔
    Body.isDeclaredTooLong request.headers = false ∧
      Prompts service.desk.cookieName request call := by
  unfold question
  constructor
  · intro hasked
    obtain ⟨hlength, hasked⟩ := Option.ite_none_left_eq_some.mp hasked
    obtain ⟨hmethod, hasked⟩ := Option.ite_none_left_eq_some.mp hasked
    obtain ⟨route, hroute, hasked⟩ := Option.bind_eq_some_iff.mp hasked
    exact ⟨Bool.eq_false_iff.mpr hlength,
      Route.prompts_of_question (Route.ofPath?_eq_some_iff.mp hroute) hmethod hasked⟩
  · rintro ⟨hlength, hprompts⟩
    obtain ⟨route, hpath, hmethod, hasked⟩ := hprompts.exists_route
    rw [hlength, if_neg Bool.false_ne_true, if_neg hmethod, Route.ofPath?_eq_some_iff.mpr hpath]
    exact hasked

/-- A request that declares no length does not declare one beyond the limit. -/
theorem not_isDeclaredTooLong {headers : Headers} (h : headers.first? "content-length" = none) :
    Body.isDeclaredTooLong headers = false := by
  simp [Body.isDeclaredTooLong, Body.declaredLength?, h]

/-- **Questions.** A served request calls the core at most once, and exactly with what it
prompts, unless its declared length is beyond the limit. To get the user's own record or the
session answer with a credential, without declaring a length, makes exactly one call, although
the guard and what stands behind it both need the identity. -/
theorem serve_calls_prompted (service : Service) (core : Core σ) (moment : Moment)
    (freshId : FieldValue) (request : Request) (s : σ) :
    (serve service core moment freshId request s).calls.length ≤ 1 ∧
      (∀ call, call ∈ (serve service core moment freshId request s).calls ↔
        Body.isDeclaredTooLong request.headers = false ∧
          Prompts service.desk.cookieName request call) ∧
      ∀ credential, request.method = "GET" →
        request.path = "/api/v1/users/me" ∨ request.path = "/api/v1/auth/session" →
        request.headers.first? "content-length" = none →
        Credential.extract request.headers service.desk.cookieName = some credential →
        (serve service core moment freshId request s).calls = [.lookup credential.token] := by
  rw [serve_calls]
  refine ⟨?_, ?_, ?_⟩
  · cases question service request <;> simp
  · intro call
    rw [Option.mem_toList, question_eq_some_iff]
  · intro credential hget hpath hlength hfound
    have hprompts : Prompts service.desk.cookieName request (.lookup credential.token) := by
      rcases hpath with hme | hsession
      · exact .me hme (by simp [hget]) hfound
      · exact .session hsession (.inl hget) hfound
    rw [question_eq_some_iff.mpr ⟨not_isDeclaredTooLong hlength, hprompts⟩, Option.toList_some]

end

/-! ## A request for one's own record -/

/-- A service that finds credentials in the cookie `access_token`. -/
def cookieService : Service := ⟨⟨"scripted", "access_token"⟩, .anyone, 10000⟩

/-- A core that knows nobody, and takes longer to say so than the service waits. -/
def slowScript : Scripted.Script := ⟨[], ⟨12000, .nothing⟩, [], [], []⟩

/-- A request for one's own record with a credential in its second cookie. -/
def cookieRequest : Request :=
  ⟨"GET", "/api/v1/users/me", [("cookie", Http.asciiBytes "theme=dark; access_token=a")], []⟩

/-- The beginning of 1970. -/
def firstMoment : Moment where
  now := ⟨0, 0⟩
  userId := "u"
  salt := []
  firstToken := "b"
  secondToken := "c"

/-- The credential of the request is asked about once, even if the answer comes too late. -/
theorem serve_calls_cookieRequest :
    cookieRequest.headers.first? "content-length" = none ∧
      Credential.extract cookieRequest.headers "access_token" = some ⟨"a", .cookie⟩ ∧
      (serve cookieService (Scripted.core slowScript) firstMoment [] cookieRequest {}).calls =
        [.lookup "a"] := by
  obtain ⟨_, _, hcalls⟩ := serve_calls_prompted cookieService (Scripted.core slowScript)
    firstMoment [] cookieRequest {}
  have hlength : cookieRequest.headers.first? "content-length" = none := by decide
  have hfound : Credential.extract cookieRequest.headers "access_token" =
      some ⟨"a", .cookie⟩ := by decide
  exact ⟨hlength, hfound, hcalls ⟨"a", .cookie⟩ rfl (.inl rfl) hlength hfound⟩

end IdentityGateway.Gateway
