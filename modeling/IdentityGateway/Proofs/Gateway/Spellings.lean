import IdentityGateway.Proofs.EmailSpelling
import IdentityGateway.Proofs.Gateway.Addresses
import IdentityGateway.Proofs.Gateway.Tokens
import IdentityGateway.Proofs.Memory.Logins

/-!
# Spellings that clients use

An account that was registered is found by its email address in any ASCII case, and the address is
taken in any case. Between blanks it is refused as it stands, as the check of the body comes before
the blanks are trimmed.
-/

namespace IdentityGateway.Gateway

open Http (FieldValue Request)
open Json (Value)
open Memory (Course Enrolled Policy Store)

/-- What is told of an error in the email address. -/
def emailErrorPage (message : String) : Nat × String :=
  (400, (Value.object [
    ("message", .string "Validation failed"),
    ("errors", .object [("email", .array [.string message])])]).text)

/-- An exchange registered an account. -/
structure Registers (x : Exchange) (account : RegisterRequest) : Prop where
  path : x.visit.request.path = "/api/v1/auth/register"
  posted : x.visit.request.method = "POST"
  accepted : Body.Accepts RegisterRequest.kind x.visit.request account
  status : x.response.status = 201

/-- A request posts a record of some kind to a path, whether the record is valid or not. -/
structure Submits {α : Type} (kind : RequestKind α) (path : String) (request : Request)
    (body : α) : Prop where
  path : request.path = path
  posted : request.method = "POST"
  short : Body.isDeclaredTooLong request.headers = false
  read : Body.read kind request = .ok body

/-- Every check of a record holds, except perhaps that of its email address. -/
def OtherwiseValid {α : Type} (kind : RequestKind α) (body : α) : Prop :=
  ∀ check ∈ kind.checks body, check.field ≠ "email" → check.holds = true

/-- What is told of an account's email address in another spelling. -/
structure ToldOfSpelling (service : Service) (policy : Policy) (s : Store)
    (account : RegisterRequest) (user : Value) (spelling : Respelling account.email) : Prop where
  /-- Without blank margins, it logs the user in with the account's password. -/
  login : spelling.Bare → ∀ moment freshId request,
    Submits LoginRequest.kind "/api/v1/auth/login" request ⟨spelling.text, account.password⟩ →
      ∃ access refresh text,
        (serve service (Memory.core policy) moment freshId request s).response.page =
          (200, text) ∧ HandsOut (200, text) access refresh user
  /-- Without blank margins, it is taken. -/
  taken : spelling.Bare → ∀ moment freshId request body,
    Submits RegisterRequest.kind "/api/v1/auth/register" request body →
    body.email = spelling.text → OtherwiseValid RegisterRequest.kind body →
    moment.saltFault = none →
      (serve service (Memory.core policy) moment freshId request s).response.page =
        emailErrorPage "Email is already registered"
  /-- With blank margins, it is refused by the check of a login. -/
  loginRefused : ¬ spelling.Bare → ∀ moment freshId request,
    Submits LoginRequest.kind "/api/v1/auth/login" request ⟨spelling.text, account.password⟩ →
      (serve service (Memory.core policy) moment freshId request s).response.page =
        emailErrorPage "Email is invalid"
  /-- With blank margins, it is refused by the check of a registration. -/
  registrationRefused : ¬ spelling.Bare → ∀ moment freshId request body,
    Submits RegisterRequest.kind "/api/v1/auth/register" request body →
    body.email = spelling.text → OtherwiseValid RegisterRequest.kind body →
      (serve service (Memory.core policy) moment freshId request s).response.page =
        emailErrorPage "Email is invalid"

section

variable {α : Type} {service : Service} {policy : Policy} {s : Store} {moment : Moment}
  {request : Request} {route : Route} {kind : RequestKind α} {ask : α → GrantRequest}
  {status : Nat} {event : Grant → Option Event} {body : α} {past : List Exchange} {x : Exchange}
  {account : RegisterRequest} {freshId : FieldValue} {email : String} {rest : List Check}

/-! ## Submitted records -/

/-- What is told of a record that is submitted. -/
theorem Submits.page_eq (h : Submits kind route.path request body)
    (hposts : route.Posts service.desk kind ask status event) (policy : Policy) (moment : Moment)
    (freshId : FieldValue) (s : Store) :
    (serve service (Memory.core policy) moment freshId request s).response.page =
      grantPage ((Memory.core policy).answers moment s) ask status (kind.validate body) := by
  have hchecked : Body.checked kind request = kind.validate body := by
    rw [Body.checked, h.read]
  rw [hposts.page_serve h.path h.posted h.short (isInTime_memory policy _ _ s _), hchecked]

/-- A record with an accepted email address is told what the core says, if nothing else is wrong. -/
theorem Submits.page_of_valid (h : Submits kind route.path request body)
    (hposts : route.Posts service.desk kind ask status event)
    (hchecks : kind.checks body = .email email :: rest)
    (hrest : ∀ check ∈ rest, check.holds = true) (hemail : EmailAddress.isValid email = true) :
    (serve service (Memory.core policy) moment freshId request s).response.page =
      match (Memory.grant policy moment (ask body) s).1 with
      | .error failure => failure.page
      | .ok g => (status, g.view.text) := by
  have hvalid : ∀ check ∈ kind.checks body, check.holds = true := by
    rw [hchecks]
    exact List.forall_mem_cons.mpr ⟨hemail, hrest⟩
  rw [h.page_eq hposts, RequestKind.validate_eq_ok_iff.mpr ⟨rfl, hvalid⟩]
  rfl

/-- A record whose email address is all that is wrong is told so. -/
theorem Submits.page_of_invalid (h : Submits kind route.path request body)
    (hposts : route.Posts service.desk kind ask status event)
    (hchecks : kind.checks body = .email email :: rest)
    (hrest : ∀ check ∈ rest, check.holds = true) (hemail : EmailAddress.isValid email = false) :
    (serve service (Memory.core policy) moment freshId request s).response.page =
      emailErrorPage "Email is invalid" := by
  have hnone : (rest.filter fun check => !check.holds) = [] := by
    rw [List.filter_eq_nil_iff]
    intro check hcheck
    simp [hrest check hcheck]
  have herrors : Check.errors (kind.checks body) = .single "email" "Email is invalid" := by
    rw [hchecks, Check.errors, List.filter_cons_of_pos (by simp [Check.email, hemail]), hnone]
    rfl
  rw [h.page_eq hposts, RequestKind.validate, herrors]
  rfl

/-- What is told of a registration whose email address is taken. -/
theorem page_emailTaken :
    CoreFailure.emailTaken.page = emailErrorPage "Email is already registered" := rfl

/-! ## Registered accounts -/

/-- The password of an account that was registered is not empty. -/
theorem Registers.password_pos (h : Registers x account) : 1 ≤ account.password.length := by
  have hcheck := h.accepted.valid
    ⟨"password", 8 ≤ account.password.length, "Password must be at least 8 characters"⟩
    (by simp [RegisterRequest.kind, RegisterRequest.checks])
  have hlength : 8 ≤ account.password.length := by simpa using hcheck
  omega

/-- An exchange that registered an account told its grant, and the account is enrolled. -/
theorem Registers.exists_grant (h : Registers x account)
    (htraffic : Traffic service (Memory.core policy) .empty past s) (hx : x ∈ past) :
    ∃ g : Grant, x.response.page = (201, g.view.text) ∧
      g = Memory.newGrant policy x.visit.moment g.user ∧
      Enrolled (entries past) account.email account.account g.user := by
  obtain ⟨s', hexchange⟩ := htraffic.exists_state hx
  have hstatus : (x.visit.exchange service (Memory.core policy) s').response.status = 201 := by
    rw [← hexchange]
    exact h.status
  obtain ⟨body, g, haccepts, hentry, hpage⟩ :=
    (Route.posts_register service.desk).granted h.path h.posted (.inr hstatus)
  -- a request has one body only, so the account of the call is the one that was accepted
  obtain rfl : account = body := Except.ok.inj
    ((Body.checked_eq_ok_iff.mpr h.accepted).symm.trans (Body.checked_eq_ok_iff.mpr haccepts))
  rw [← hexchange] at hentry hpage
  have hcourse : Course policy (entries past) s := Memory.course_of_history htraffic.history
  have hmem : (⟨x.visit.moment, .grant (.register account.account), .grant (.ok g)⟩ : Entry) ∈
      entries past := List.mem_filterMap.mpr ⟨x, hx, hentry⟩
  obtain ⟨later, earlier, hsplit⟩ := List.append_of_mem hmem
  refine ⟨g, hpage, hcourse.grant_eq ⟨earlier, hsplit, rfl⟩, _, hmem, rfl, rfl, ?_⟩
  have hvalid := isValid_of_accepts_register h.accepted
  rw [RegisterRequest.account, EmailAddress.trim_eq_of_isValid hvalid]

/-- An enrolled account is enrolled with its email address in any ASCII case. -/
theorem enrolled_of_bare {entries : List Entry} {newAccount : NewAccount} {user : Identity}
    {spelling : Respelling email} (h : Enrolled entries email newAccount user)
    (hvalid : EmailAddress.isValid email = true) (hbare : spelling.Bare) :
    Enrolled entries (Text.trim spelling.text) newAccount user := by
  obtain ⟨e, he, hcall, hnew, hemail⟩ := h
  refine ⟨e, he, hcall, hnew, ?_⟩
  rw [EmailAddress.trim_eq_of_isValid (hbare.isValid hvalid), hbare.normalizeEmail_eq hvalid]
  exact hemail

/-- If all else about a registration is valid, its checks hold behind that of its email address. -/
theorem OtherwiseValid.tail {body : RegisterRequest}
    (h : OtherwiseValid RegisterRequest.kind body) :
    ∀ check ∈ (RegisterRequest.kind.checks body).tail, check.holds = true := by
  intro check hcheck
  refine h check (List.mem_of_mem_tail hcheck) ?_
  simp only [RegisterRequest.kind, RegisterRequest.checks, List.tail_cons, List.mem_cons,
    List.not_mem_nil, or_false] at hcheck
  rcases hcheck with rfl | rfl
  · exact (by decide : "password" ≠ "email")
  · exact (by decide : "name" ≠ "email")

/-- What is told of an enrolled account's email address in another spelling. -/
theorem toldOfSpelling_of_enrolled (hexact : policy.scheme.Exact)
    (hcourse : Course policy (entries past) s) (hids : (drawnIds (entries past)).Nodup)
    {user : Identity} (henrolled : Enrolled (entries past) account.email account.account user)
    (hvalid : EmailAddress.isValid account.email = true)
    (hpassword : 1 ≤ account.password.length) (spelling : Respelling account.email) :
    ToldOfSpelling service policy s account user.view spelling := by
  have hloginRest : ∀ check ∈ [(⟨"password", 1 ≤ account.password.length,
      "Password is required"⟩ : Check)], check.holds = true := by
    simp [hpassword]
  constructor
  case login =>
    intro hbare moment freshId request hsubmits
    replace hsubmits : Submits LoginRequest.kind Route.login.path request
      ⟨spelling.text, account.password⟩ := hsubmits
    have hgranted : (Memory.grant policy moment
        (.login (Text.trim spelling.text) account.password) s).1 =
          .ok (Memory.newGrant policy moment user) :=
      hcourse.login_of_enrolled hexact hids (enrolled_of_bare henrolled hvalid hbare) rfl
    obtain ⟨refresh, hrefresh⟩ := Memory.exists_refreshToken? policy moment user
    refine ⟨_, refresh, _, ?_, handsOut_newGrant hrefresh 200⟩
    rw [hsubmits.page_of_valid (Route.posts_login service.desk) rfl hloginRest
      (hbare.isValid hvalid), hgranted]
  case taken =>
    intro hbare moment freshId request body hsubmits hemail hother hsalt
    replace hsubmits : Submits RegisterRequest.kind Route.register.path request body := hsubmits
    -- the password is hashed before the address is looked up, so that has to succeed first
    obtain ⟨stored, hstored⟩ := Memory.exists_storedPassword hexact hsalt body.account.password
    have htaken : s.byEmail.contains (Memory.normalizeEmail body.account.email) = true := by
      rw [hcourse.taken_iff]
      refine ⟨account.account, user, ?_⟩
      rw [RegisterRequest.account, hemail]
      exact enrolled_of_bare henrolled hvalid hbare
    have hsaid : (Memory.grant policy moment (.register body.account) s).1 =
        .error .emailTaken :=
      congrArg Prod.fst (Memory.register_of_taken hstored htaken)
    have haccepted : EmailAddress.isValid body.email = true := by
      rw [hemail]
      exact hbare.isValid hvalid
    rw [hsubmits.page_of_valid (Route.posts_register service.desk) rfl hother.tail
      haccepted, hsaid]
    exact page_emailTaken
  case loginRefused =>
    intro hmargin moment freshId request hsubmits
    replace hsubmits : Submits LoginRequest.kind Route.login.path request
      ⟨spelling.text, account.password⟩ := hsubmits
    exact hsubmits.page_of_invalid (Route.posts_login service.desk) rfl hloginRest
      (Respelling.isValid_eq_false hmargin)
  case registrationRefused =>
    intro hmargin moment freshId request body hsubmits hemail hother
    replace hsubmits : Submits RegisterRequest.kind Route.register.path request body := hsubmits
    have hinvalid : EmailAddress.isValid body.email = false := by
      rw [hemail]
      exact Respelling.isValid_eq_false hmargin
    exact hsubmits.page_of_invalid (Route.posts_register service.desk) rfl hother.tail
      hinvalid

/-- **Spellings.** After any requests were served by a fresh core in memory whose hashing is exact
and never fails and whose ids are all different, an account that one of them registered is logged in
to with its password and its email address in any ASCII case, and the address is taken in any case.
With blanks at its margins, the address is refused by the check of the body. -/
theorem told_of_spelling {policy : Policy} (hexact : policy.scheme.Exact) {past : List Exchange}
    {s : Store} (h : Traffic service (Memory.core policy) .empty past s)
    (hids : (drawnIds (entries past)).Nodup) {x : Exchange} (hx : x ∈ past)
    {account : RegisterRequest} (hregisters : Registers x account) :
    ∃ access refresh user, HandsOut x.response.page access refresh user ∧
      ∀ spelling : Respelling account.email,
        ToldOfSpelling service policy s account user spelling := by
  obtain ⟨g, hpage, hgrant, henrolled⟩ := hregisters.exists_grant h hx
  obtain ⟨refresh, hrefresh⟩ := Memory.exists_refreshToken? policy x.visit.moment g.user
  have hhands := handsOut_newGrant hrefresh 201
  rw [← hgrant, ← hpage] at hhands
  have hcourse : Course policy (entries past) s := Memory.course_of_history h.history
  exact ⟨_, refresh, g.user.view, hhands, toldOfSpelling_of_enrolled hexact hcourse hids henrolled
    (isValid_of_accepts_register hregisters.accepted) hregisters.password_pos⟩

end

/-! ## Capitals, and a blank -/

/-- What becomes of two registrations, and the store afterwards, if passwords are told apart. -/
def openRegistered : List Exchange × Store :=
  serveAll (.ofSettings plainSettings "memory") (Memory.core Memory.openPolicy) .empty registrations

/-- What the first of the two users registered with. -/
def firstAccount : RegisterRequest := ⟨"Ada@x.org", "pa$$word", none⟩

/-- The first user's email address as it is typed with capitals only. -/
def capitalSpelling : Respelling firstAccount.email :=
  ⟨[], "ADA@X.ORG".toList, [], by simp, by simp, by decide⟩

/-- What is told of a login to the account. -/
def loginPage (email : String) : Nat × String :=
  (serve (.ofSettings plainSettings "memory") (Memory.core Memory.openPolicy)
    (Memory.sampleMoment 3) [] (loginRequest email "pa$$word") openRegistered.2).response.page

/-- The sample traffic has the registration that the logins below go back to. -/
theorem registers_firstAccount : ∃ x ∈ openRegistered.1, Registers x firstAccount := by
  refine ⟨_, .tail _ (.head _), rfl, rfl, Body.checked_eq_ok_iff.mp ?_, ?_⟩
  · rfl
  · decide +kernel

/-- The first user logs in with an email address in capitals. -/
theorem told_of_capitals :
    Memory.openPolicy.scheme.Exact ∧ (drawnIds (entries openRegistered.1)).Nodup ∧
      ∃ x ∈ openRegistered.1, Registers x firstAccount ∧ ∃ access refresh user,
        HandsOut x.response.page access refresh user ∧ ∃ access' refresh' text,
          loginPage "ADA@X.ORG" = (200, text) ∧ HandsOut (200, text) access' refresh' user := by
  have hexact : Memory.openPolicy.scheme.Exact := Password.openScheme_exact
  have hids : (drawnIds (entries openRegistered.1)).Nodup := by decide +kernel
  have htraffic := traffic_serveAll (.ofSettings plainSettings "memory")
    (Memory.core Memory.openPolicy) .empty registrations
  obtain ⟨first, hfirst, hregisters⟩ := registers_firstAccount
  obtain ⟨access, refresh, user, hhands, htold⟩ :=
    told_of_spelling hexact htraffic hids hfirst hregisters
  have hsubmits : Submits LoginRequest.kind "/api/v1/auth/login"
      (loginRequest "ADA@X.ORG" "pa$$word") ⟨capitalSpelling.text, firstAccount.password⟩ :=
    ⟨rfl, rfl, rfl, rfl⟩
  exact ⟨hexact, hids, first, hfirst, hregisters, access, refresh, user, hhands,
    (htold capitalSpelling).login ⟨rfl, rfl⟩ (Memory.sampleMoment 3) [] _ hsubmits⟩

/-- With a blank before the email address, nobody logs in to the account that was registered. -/
theorem blank_before_address :
    (∃ x ∈ openRegistered.1, Registers x firstAccount) ∧
      loginPage " Ada@x.org" = emailErrorPage "Email is invalid" :=
  ⟨registers_firstAccount, by decide +kernel⟩

end IdentityGateway.Gateway
