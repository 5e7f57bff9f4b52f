import IdentityGateway.Proofs.Gateway.Traffic
import IdentityGateway.Proofs.Json.Values
import IdentityGateway.Proofs.Memory.Endurance
import IdentityGateway.Proofs.Settings

/-!
# Tokens that were handed out

The tokens that a client is told of work where they should, whatever requests of other clients were
served in the meantime: until it ends or is refreshed, the access token shows the user's own record
just as it was told with the token, and the refresh token gives new tokens for the same user.
-/

namespace IdentityGateway.Gateway

open Credential (Presents)
open Http (FieldValue Headers Request)
open Json (Value)
open Memory (Course Endures Policy Store Unspent)

/-- A request asks for a grant: it is posted to a route that takes bodies. -/
structure AsksForGrant (request : Request) : Prop where
  posted : request.method = "POST"
  path : ∃ route : Route, route.isPost = true ∧ request.path = route.path

/-- The text in which clients see an access token and a refresh token for a user. -/
def handedText (access refresh : String) (lifetime : Nat) (user : Value) : String :=
  (Value.object [
    ("access_token", .string access),
    ("refresh_token", .string refresh),
    ("expires_in", Value.integer lifetime),
    ("token_type", .string "Bearer"),
    ("user", user)]).text

/-- A page hands out an access token and a refresh token for a user. -/
def HandsOut (page : Nat × String) (access refresh : String) (user : Value) : Prop :=
  ∃ lifetime : Nat, Json.IsWord lifetime ∧ page.2 = handedText access refresh lifetime user

/-- A lifetime that began with an exchange has not ended by now, nor at any later exchange. -/
structure Unexpired (lifetime : Nat) (later : List Exchange) (x : Exchange) (now : Timestamp) :
    Prop where
  now : now.before (x.visit.moment.issuedAt.addSeconds lifetime) = true
  since : ∀ y ∈ later,
    y.visit.moment.issuedAt.before (x.visit.moment.issuedAt.addSeconds lifetime) = true

/-- What `/users/me` tells with a core in memory behind it, which is where tokens are tried out. -/
def ownRecord (service : Service) (policy : Policy) (s : Store) (moment : Moment)
    (freshId : FieldValue) (headers : Headers) (body : List UInt8) : Nat × String :=
  (serve service (Memory.core policy) moment freshId ⟨"GET", "/api/v1/users/me", headers, body⟩
    s).response.page

/-- The tokens that an exchange handed out for a user work after later exchanges. -/
structure TokensWork (service : Service) (policy : Policy) (later : List Exchange) (x : Exchange)
    (s : Store) (access refresh : String) (user : Value) : Prop where
  /-- The access token shows the user. -/
  access : ∀ moment freshId headers body, Presents headers service.desk.cookieName access →
    Body.isDeclaredTooLong headers = false →
    (∀ y ∈ later, ¬ y.Renews refresh) →
    Unexpired policy.identityLifetime later x moment.now →
      ownRecord service policy s moment freshId headers body = (200, user.text)
  /-- The refresh token of a pair is refused there. -/
  pair : policy.mode = .tokenPair → ∀ moment freshId headers body,
    Presents headers service.desk.cookieName refresh → Body.isDeclaredTooLong headers = false →
      (ownRecord service policy s moment freshId headers body).1 = 401
  /-- That of a session shows the user, too. -/
  session : policy.mode = .session → ∀ moment freshId headers body,
    Presents headers service.desk.cookieName refresh → Body.isDeclaredTooLong headers = false →
    (∀ y ∈ later, ¬ y.Renews refresh) →
    Unexpired policy.identityLifetime later x moment.now →
      ownRecord service policy s moment freshId headers body = (200, user.text)
  /-- The refresh token gives new tokens for the user. -/
  renewed : ∀ moment freshId request, request.path = "/api/v1/auth/refresh" →
    request.method = "POST" → Body.isDeclaredTooLong request.headers = false →
    Body.Accepts RefreshRequest.kind request ⟨refresh⟩ →
    (∀ y ∈ later, ¬ y.Renews refresh) →
    Unexpired policy.renewalLifetime later x moment.now →
      ∃ access' refresh' text,
        (serve service (Memory.core policy) moment freshId request s).response.page = (200, text) ∧
          HandsOut (200, text) access' refresh' user

section

variable {service : Service} {policy : Policy} {s start : Store} {moment : Moment}
  {freshId : FieldValue} {headers : Headers} {body : List UInt8} {request : Request}
  {past later earlier : List Exchange} {x : Exchange} {e : Entry} {g : Grant} {user : Identity}
  {token refresh : String} {now : Timestamp}

/-! ## What is told of a token -/

/-- What is told of the user's own record to a request that presents a token. -/
theorem ownRecord_of_presents (hname : Text.trim service.desk.cookieName = service.desk.cookieName)
    (hpresents : Presents headers service.desk.cookieName token)
    (hshort : Body.isDeclaredTooLong headers = false) (moment : Moment) (freshId : FieldValue)
    (body : List UInt8) :
    ownRecord service policy s moment freshId headers body = toldPage Identity.view
      (match s.identityOf moment.now token with
      | some user => .ok user
      | none => .error (.ofRefusal .invalidCredential)) := by
  obtain ⟨source, hextract⟩ := hpresents.extract_eq hname
  have hsaid : ((Memory.core policy).answers moment s).lookup token =
      .ok (s.identityOf moment.now token) := rfl
  rw [ownRecord, page_serve_me, unlessEnded, hshort, if_neg Bool.false_ne_true, isInTime_memory,
    if_pos rfl, hextract, Access.finding, hsaid]
  cases s.identityOf moment.now token <;> rfl

/-- A token that stands for a user shows the user. -/
theorem ownRecord_of_identityOf
    (hname : Text.trim service.desk.cookieName = service.desk.cookieName)
    (hpresents : Presents headers service.desk.cookieName token)
    (hshort : Body.isDeclaredTooLong headers = false)
    (hfound : s.identityOf moment.now token = some user) :
    ownRecord service policy s moment freshId headers body = (200, user.view.text) := by
  rw [ownRecord_of_presents hname hpresents hshort, hfound]
  rfl

/-- A token that stands for nobody is refused. -/
theorem ownRecord_of_nobody (hname : Text.trim service.desk.cookieName = service.desk.cookieName)
    (hpresents : Presents headers service.desk.cookieName token)
    (hshort : Body.isDeclaredTooLong headers = false)
    (hnobody : s.identityOf moment.now token = none) :
    (ownRecord service policy s moment freshId headers body).1 = 401 := by
  rw [ownRecord_of_presents hname hpresents hshort, hnobody]
  rfl

/-! ## What is handed out -/

/-- A text hands out no two tokens of a kind, and no two users. -/
theorem handedText_inj {access access' refresh refresh' : String} {lifetime lifetime' : Nat}
    {user user' : Value} (hlifetime : Json.IsWord lifetime) (hlifetime' : Json.IsWord lifetime')
    (h : handedText access refresh lifetime user = handedText access' refresh' lifetime' user') :
    access = access' ∧ refresh = refresh' ∧ user.text = user'.text := by
  -- a member can be told from what follows by its bytes, so the texts are compared as bytes
  have hbytes := congrArg (fun text : String => text.toUTF8.toList) h
  simp only [handedText, Value.toList_toUTF8_text, Value.bytes_object, List.cons.injEq, true_and]
    at hbytes
  obtain ⟨haccess, hbytes⟩ := Value.memberBytes_inj (.string _) (.string _) hbytes
  obtain ⟨hrefresh, hbytes⟩ := Value.memberBytes_inj (.string _) (.string _) hbytes
  obtain ⟨-, hbytes⟩ := Value.memberBytes_inj (.integer hlifetime) (.integer hlifetime') hbytes
  obtain ⟨-, hbytes⟩ := Value.memberBytes_inj (.string _) (.string _) hbytes
  exact ⟨Json.Token.string.inj haccess, Json.Token.string.inj hrefresh,
    Value.text_eq_of_last_member hbytes⟩

/-- What is handed out for a user depends on the user's text only. -/
theorem handedText_congr {user user' : Value} (huser : user.text = user'.text)
    (access refresh : String) (lifetime : Nat) :
    handedText access refresh lifetime user = handedText access refresh lifetime user' := by
  have hchars : user.chars = user'.chars := by
    simpa only [Value.text, String.ofList_inj] using huser
  simp only [handedText, Value.text, Value.chars, Value.memberChars, hchars]

/-- A page hands out no two tokens of a kind, and no two users. -/
theorem HandsOut.unique {page : Nat × String} {access access' refresh refresh' : String}
    {user user' : Value} (h : HandsOut page access refresh user)
    (h' : HandsOut page access' refresh' user') :
    access = access' ∧ refresh = refresh' ∧ user.text = user'.text := by
  obtain ⟨lifetime, hlifetime, hpage⟩ := h
  obtain ⟨lifetime', hlifetime', hpage'⟩ := h'
  exact handedText_inj hlifetime hlifetime' (hpage.symm.trans hpage')

/-- A page hands out the same for users with the same text. -/
theorem HandsOut.congr {page : Nat × String} {access refresh : String} {user user' : Value}
    (h : HandsOut page access refresh user) (huser : user.text = user'.text) :
    HandsOut page access refresh user' := by
  obtain ⟨lifetime, hlifetime, hpage⟩ := h
  exact ⟨lifetime, hlifetime, hpage.trans (handedText_congr huser access refresh lifetime)⟩

/-- No lifetime is beyond what is written for it. -/
theorem isWord_of_le {lifetime : Nat} (h : lifetime ≤ Memory.longestLifetime) :
    Json.IsWord lifetime := by
  have hbound : Memory.longestLifetime < Json.Numeral.significandBound := by decide
  simp only [Json.IsWord]
  omega

/-- A grant hands out its tokens for its user. -/
theorem handsOut_newGrant (hrefresh : (Memory.newGrant policy moment user).refreshToken? =
      some refresh) (status : Nat) :
    HandsOut (status, (Memory.newGrant policy moment user).view.text)
      (Memory.newGrant policy moment user).accessToken refresh user.view := by
  unfold Memory.newGrant at hrefresh ⊢
  cases hmode : policy.mode with
  | session =>
    simp only [hmode, Grant.refreshToken?, Option.some.injEq] at hrefresh
    subst hrefresh
    exact ⟨Grant.sessionLifetime, isWord_of_le (by decide), rfl⟩
  | tokenPair =>
    simp only [hmode, Grant.refreshToken?, Option.some.injEq] at hrefresh
    subst hrefresh
    exact ⟨policy.accessLifetime, isWord_of_le (Nat.min_le_right _ _), rfl⟩

/-- Tokens work for users with the same text. -/
theorem TokensWork.congr {access : String} {user user' : Value}
    (h : TokensWork service policy later x s access refresh user) (huser : user.text = user'.text) :
    TokensWork service policy later x s access refresh user' := by
  constructor
  case access =>
    rw [← huser]
    exact h.access
  case pair => exact h.pair
  case session =>
    rw [← huser]
    exact h.session
  case renewed =>
    intro moment freshId request hpath hpost hshort haccepts hkept hunexpired
    obtain ⟨access', refresh', text, hpage, hhands⟩ :=
      h.renewed moment freshId request hpath hpost hshort haccepts hkept hunexpired
    exact ⟨access', refresh', text, hpage, hhands.congr huser⟩

/-! ## Grants of traffic -/

/-- A request for a grant that is told as a success was granted what it is told. -/
theorem AsksForGrant.granted (h : AsksForGrant x.visit.request)
    (hexchange : x = x.visit.exchange service (Memory.core policy) s)
    (hstatus : x.response.status = 200 ∨ x.response.status = 201) :
    ∃ request g, x.recorded? = some ⟨x.visit.moment, .grant request, .grant (.ok g)⟩ ∧
      x.response.page.2 = g.view.text := by
  obtain ⟨route, htakes, hpath⟩ := h.path
  rw [hexchange] at hstatus ⊢
  cases route with
  | register =>
    obtain ⟨body, g, -, hentry, hpage⟩ :=
      (Route.posts_register service.desk).granted hpath h.posted hstatus
    exact ⟨_, g, hentry, congrArg Prod.snd hpage⟩
  | login =>
    obtain ⟨body, g, -, hentry, hpage⟩ :=
      (Route.posts_login service.desk).granted hpath h.posted hstatus
    exact ⟨_, g, hentry, congrArg Prod.snd hpage⟩
  | refresh =>
    obtain ⟨body, g, -, hentry, hpage⟩ :=
      (Route.posts_refresh service.desk).granted hpath h.posted hstatus
    exact ⟨_, g, hentry, congrArg Prod.snd hpage⟩
  | health => cases htakes
  | session => cases htakes
  | me => cases htakes

/-- A call is made at the moment of its exchange. -/
theorem Traffic.moment_eq (h : Traffic service (Memory.core policy) start past s)
    (hx : x ∈ past) (hentry : x.recorded? = some e) : e.moment = x.visit.moment := by
  obtain ⟨s, hexchange⟩ := h.exists_state hx
  rw [hexchange] at hentry
  obtain ⟨call, -, rfl⟩ := Option.map_eq_some_iff.mp hentry
  rfl

/-- A lifetime that is unexpired in traffic endures in its calls. -/
theorem Unexpired.endures {lifetime : Nat} (h : Unexpired lifetime later x now)
    (htraffic : Traffic service (Memory.core policy) start past s)
    (hlater : ∀ y ∈ later, y ∈ past) (hmoment : e.moment = x.visit.moment) :
    Endures lifetime (entries later) e now := by
  constructor
  case now =>
    rw [hmoment]
    exact h.now
  case since =>
    intro e' he' _
    obtain ⟨y, hy, hentry⟩ := exists_exchange_of_mem he'
    rw [htraffic.moment_eq (hlater y hy) hentry, hmoment]
    exact h.since y hy

/-- A grant whose refresh token no later request refreshed is unspent. -/
theorem Traffic.unspent (h : Traffic service (Memory.core policy) start past s)
    (hlater : ∀ y ∈ later, y ∈ past) (hrefresh : g.refreshToken? = some refresh)
    (hkept : ∀ y ∈ later, ¬ y.Renews refresh) : Unspent (entries later) g := by
  intro e he used hused
  obtain rfl : refresh = used := Option.some.inj (hrefresh.symm.trans hused)
  rw [Bool.eq_false_iff]
  intro hspends
  obtain ⟨y, hy, hentry⟩ := exists_exchange_of_mem he
  obtain ⟨s, hexchange⟩ := h.exists_state (hlater y hy)
  apply hkept y hy
  rw [hexchange] at hentry ⊢
  exact renews_of_spends hentry hspends

/-- What an exchange was granted works as long as the grant does. -/
theorem tokensWork_of_granted (hname : Text.trim service.desk.cookieName = service.desk.cookieName)
    (h : Traffic service (Memory.core policy) .empty past s) (hfresh : Fresh (entries past))
    (hsplit : past = later ++ x :: earlier) (hentry : x.recorded? = some e)
    (hgrant : e.grant? = some g) (hrefresh : g.refreshToken? = some refresh) :
    TokensWork service policy later x s g.accessToken refresh g.user.view := by
  have hcourse : Course policy (entries past) s := Memory.course_of_history h.history
  have hx : x ∈ past := by simp [hsplit]
  have hlater : ∀ y ∈ later, y ∈ past := by
    intro y hy
    rw [hsplit]
    exact List.mem_append_left _ hy
  have hmoment : e.moment = x.visit.moment := h.moment_eq hx hentry
  have hgranted : Granted (entries past) (entries later) e g :=
    ⟨entries earlier, by rw [hsplit, entries_split hentry], hgrant⟩
  -- stated of any token that is the access token, as in a session the refresh token is
  have hshown : ∀ {token moment freshId headers body}, g.accessToken = token →
      Presents headers service.desk.cookieName token → Body.isDeclaredTooLong headers = false →
      (∀ y ∈ later, ¬ y.Renews refresh) →
      Unexpired policy.identityLifetime later x moment.now →
        ownRecord service policy s moment freshId headers body = (200, g.user.view.text) := by
    rintro _ moment freshId headers body rfl hpresents hshort hkept hunexpired
    have hfound : s.identityOf moment.now g.accessToken = some g.user :=
      hcourse.identityOf_of_endures hfresh hgranted (h.unspent hlater hrefresh hkept)
        (hunexpired.endures h hlater hmoment)
    exact ownRecord_of_identityOf hname hpresents hshort hfound
  constructor
  case access =>
    intro moment freshId headers body
    exact hshown rfl
  case pair =>
    intro hmode moment freshId headers body hpresents hshort
    have hnobody : s.identityOf moment.now refresh = none :=
      hcourse.identityOf_refreshToken hfresh hmode hgranted hrefresh
    exact ownRecord_of_nobody hname hpresents hshort hnobody
  case session =>
    intro hmode moment freshId headers body
    have hsame : g.refreshToken? = some g.accessToken := by
      rw [hcourse.grant_eq hgranted]
      exact Memory.refreshToken?_session hmode
    exact hshown (Option.some.inj (hsame.symm.trans hrefresh))
  case renewed =>
    intro moment freshId request hpath hpost hshort haccepts hkept hunexpired
    have hexchanged : (Memory.exchange policy moment refresh s).1 =
        .ok (Memory.newGrant policy moment g.user) :=
      hcourse.exchange_of_endures hfresh hgranted (h.unspent hlater hrefresh hkept) hrefresh
        (hunexpired.endures h hlater hmoment)
    have hpage : (serve service (Memory.core policy) moment freshId request s).response.page =
        (200, (Memory.newGrant policy moment g.user).view.text) := by
      rw [(Route.posts_refresh service.desk).page_serve hpath hpost hshort
        (isInTime_memory policy _ _ s _), Body.checked_eq_ok_iff.mpr haccepts, grantPage,
        answers_memory_grant, Memory.grant, hexchanged]
    obtain ⟨refresh', hrefresh'⟩ := Memory.exists_refreshToken? policy moment g.user
    exact ⟨_, refresh', _, hpage, handsOut_newGrant hrefresh' 200⟩

end

/-- **Tokens.** With any cookie name without blank margins, whatever requests were served by a fresh
core in memory whose tokens and ids are all different, every response to a request for a grant that
is told as a success hands out tokens, and these work until they end or are refreshed. -/
theorem tokens_work (service : Service) (policy : Policy)
    (hname : Text.trim service.desk.cookieName = service.desk.cookieName)
    {past later earlier : List Exchange} {x : Exchange} {s : Store}
    (h : Traffic service (Memory.core policy) .empty past s) (hfresh : Fresh (entries past))
    (hsplit : past = later ++ x :: earlier) (hasks : AsksForGrant x.visit.request)
    (hstatus : x.response.status = 200 ∨ x.response.status = 201) :
    (∃ access refresh user, HandsOut x.response.page access refresh user) ∧
      ∀ access refresh user, HandsOut x.response.page access refresh user →
        TokensWork service policy later x s access refresh user := by
  have hx : x ∈ past := by simp [hsplit]
  obtain ⟨s', hexchange⟩ := h.exists_state hx
  obtain ⟨request, g, hentry, htold⟩ := hasks.granted hexchange hstatus
  have hgranted : Granted (entries past) (entries later) _ g :=
    ⟨entries earlier, by rw [hsplit, entries_split hentry], rfl⟩
  have hgrant : g = Memory.newGrant policy x.visit.moment g.user :=
    (Memory.course_of_history h.history).grant_eq hgranted
  obtain ⟨refresh, hrefresh⟩ := Memory.exists_refreshToken? policy x.visit.moment g.user
  have hhands := handsOut_newGrant hrefresh x.response.page.1
  rw [← hgrant, ← htold] at hhands
  rw [← hgrant] at hrefresh
  refine ⟨⟨_, _, _, hhands⟩, ?_⟩
  intro access' refresh' user' hhands'
  obtain ⟨rfl, rfl, huser⟩ := hhands.unique hhands'
  exact (tokensWork_of_granted hname h hfresh hsplit hentry rfl hrefresh).congr huser

/-! ## A user with a cookie among others -/

/-- What an environment without any settings gives. -/
def plainSettings : Settings where
  port := 3000
  deployment := .development
  allowedOrigins := []
  cookieName := "access_token"
  coreUrl := none
  grantMode := .tokenPair
  accessLifetime := 3600
  requestTimeout := 30

/-- What a client posts to create an account with a fixed password. -/
def registration (email : String) : Request where
  method := "POST"
  path := "/api/v1/auth/register"
  headers := [("content-type", Http.asciiBytes "application/json")]
  body := (Value.object [("email", .string email), ("password", .string "pa$$word")]).bytes

/-- Two users register, the latest first, one second after the other. -/
def registrations : List Visit := [
  ⟨Memory.sampleMoment 2, [], registration "bob@x.org"⟩,
  ⟨Memory.sampleMoment 1, [], registration "Ada@x.org"⟩]

/-- The traffic of the two registrations on an empty store. -/
def registered : List Exchange × Store :=
  serveAll (.ofSettings plainSettings "memory") (Memory.core Memory.samplePolicy) .empty
    registrations

/-- The earlier of the two exchanges, whose tokens have to outlast the later one. -/
def firstRegistered : Exchange :=
  (⟨Memory.sampleMoment 1, [], registration "Ada@x.org"⟩ : Visit).exchange
    (.ofSettings plainSettings "memory") (Memory.core Memory.samplePolicy) .empty

/-- Whom the earlier registration created, as the store has them. -/
def firstUser : Identity :=
  Memory.newUser (Memory.sampleMoment 1) ⟨"Ada@x.org", "pa$$word", none⟩ "$$pa$$word"

/-- The first registration handed out two tokens for the first user, and the second left them
alone. -/
theorem handsOut_firstRegistered : ∃ second, registered.1 = [second] ++ firstRegistered :: [] ∧
    HandsOut firstRegistered.response.page "a" "b" firstUser.view ∧
    (∀ y ∈ [second], ¬ y.Renews "b") ∧
    Unexpired Memory.samplePolicy.identityLifetime [second] firstRegistered
      (Memory.sampleMoment 3).now := by
  have htold : firstRegistered.response.page.2 = handedText "a" "b" 60 firstUser.view := rfl
  refine ⟨_, rfl, ⟨60, isWord_of_le (by decide), htold⟩, ?_, by decide, by decide⟩
  intro y hy hrenews
  rw [List.mem_singleton.mp hy] at hrenews
  exact absurd hrenews.path (by decide)

/-- The first user is shown to a request with the access token in its second cookie. -/
theorem tokens_work_firstRegistered :
    Settings.ofLookup (fun _ => none) = .ok plainSettings ∧ Fresh (entries registered.1) ∧
      ownRecord (.ofSettings plainSettings "memory") Memory.samplePolicy registered.2
        (Memory.sampleMoment 3) [] [("cookie", Http.asciiBytes "theme=dark; access_token=a")] [] =
          (200, firstUser.view.text) := by
  have hsettings : Settings.ofLookup (fun _ => none) = .ok plainSettings := by rfl
  have hfresh : Fresh (entries registered.1) := ⟨by decide +kernel, by decide +kernel⟩
  have htraffic := traffic_serveAll (.ofSettings plainSettings "memory")
    (Memory.core Memory.samplePolicy) .empty registrations
  have hasks : AsksForGrant firstRegistered.visit.request := ⟨rfl, .register, rfl, rfl⟩
  have hstatus : firstRegistered.response.status = 201 := by decide +kernel
  obtain ⟨second, hsplit, hhands, hkept, hunexpired⟩ := handsOut_firstRegistered
  obtain ⟨-, hworks⟩ := tokens_work (.ofSettings plainSettings "memory") Memory.samplePolicy
    (Settings.ReadFrom.of_ofLookup hsettings).trim_cookieName htraffic hfresh hsplit hasks
    (.inr hstatus)
  have hcarries : Credential.CarriesCookie
      [("cookie", Http.asciiBytes "theme=dark; access_token=a")] "access_token" "a" := by
    refine ⟨[], Http.asciiBytes "theme=dark; access_token=a", [], [⟨"theme", some "dark"⟩], [],
      rfl, ⟨?_, by decide⟩, ?_, by simp⟩
    · intro cookie hcookie
      simp only [List.cons_append, List.nil_append, List.mem_cons, List.not_mem_nil, or_false]
        at hcookie
      rcases hcookie with rfl | rfl <;> exact ⟨by decide, by decide⟩
    · intro cookie hcookie
      rw [List.mem_singleton.mp hcookie]
      change Text.trim "theme" ≠ "access_token"
      decide
  exact ⟨hsettings, hfresh, (hworks "a" "b" _ hhands).access (Memory.sampleMoment 3) [] _ []
    (.cookie (by decide) hcarries) (by decide) hkept hunexpired⟩

/-- The first user is not shown to a request with the access token in its second cookie, if the
first one is not ASCII. -/
theorem ownRecord_cookie_beyond_ascii :
    ∃ second, registered.1 = [second] ++ firstRegistered :: [] ∧
      firstRegistered.response.status = 201 ∧
      HandsOut firstRegistered.response.page "a" "b" firstUser.view ∧
      (∀ y ∈ [second], ¬ y.Renews "b") ∧
      Unexpired Memory.samplePolicy.identityLifetime [second] firstRegistered
        (Memory.sampleMoment 3).now ∧
      ownRecord (.ofSettings plainSettings "memory") Memory.samplePolicy registered.2
        (Memory.sampleMoment 3) [] [("cookie", Text.utf8 "theme=é; access_token=a".toList)] [] ≠
          (200, firstUser.view.text) := by
  obtain ⟨second, hsplit, hhands, hkept, hunexpired⟩ := handsOut_firstRegistered
  have hrefused : (ownRecord (.ofSettings plainSettings "memory") Memory.samplePolicy registered.2
      (Memory.sampleMoment 3) [] [("cookie", Text.utf8 "theme=é; access_token=a".toList)] []).1 =
      401 := by decide +kernel
  refine ⟨second, hsplit, by decide +kernel, hhands, hkept, hunexpired, ?_⟩
  intro hshown
  rw [hshown] at hrefused
  exact absurd hrefused (by decide)

end IdentityGateway.Gateway
