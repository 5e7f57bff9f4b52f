import IdentityGateway.Proofs.Gateway.Serving

/-!
# Served requests compared

Two consultations, each with answers of its own, are alike if they note the same events and what is
seen of their results is the same. The parts of a request are compared one after another: a part
that goes on with something alike stays alike. What is said of users counts as the same if it is so
but for password hashes.
-/

namespace IdentityGateway

open Http (Headers Request Response)

/-! ## Password hashes -/

/-- A user without the password hash. -/
def Identity.redacted (u : Identity) : Identity :=
  { u with passwordHash := none }

/-- Users who are the same but for password hashes have the same id. -/
theorem Identity.id_eq_of_redacted {u v : Identity} (h : u.redacted = v.redacted) :
    u.id = v.id := by
  have hid : u.redacted.id = v.redacted.id := congrArg Identity.id h
  exact hid

/-- Users who are the same but for password hashes are shown alike. -/
theorem Identity.view_eq_of_redacted {u v : Identity} (h : u.redacted = v.redacted) :
    u.view = v.view := by
  have hview : u.redacted.view = v.redacted.view := congrArg Identity.view h
  exact hview

/-- Who is found, without the password hash. -/
def Access.redacted {ε : Type} (found : Except ε (Option Identity)) : Except ε (Option Identity) :=
  found.map (Option.map Identity.redacted)

/-- What is the same after a function is applied is a failure on both sides, or something on both
sides that is the same then. -/
theorem cases_of_except_map_eq {ε α β : Type} {f : α → β} {r r' : Except ε α}
    (h : r.map f = r'.map f) :
    (∃ e, r = .error e ∧ r' = .error e) ∨ ∃ a a', r = .ok a ∧ r' = .ok a' ∧ f a = f a' := by
  cases r with
  | error e =>
    cases r' with
    | error e' =>
      obtain rfl := Except.error.inj h
      exact .inl ⟨e, rfl, rfl⟩
    | ok a' => cases h
  | ok a =>
    cases r' with
    | error e' => cases h
    | ok a' => exact .inr ⟨a, a', rfl, rfl, Except.ok.inj h⟩

/-- What is the same after a function is applied is missing on both sides, or something on both
sides that is the same then. -/
theorem cases_of_option_map_eq {α β : Type} {f : α → β} {o o' : Option α}
    (h : o.map f = o'.map f) :
    (o = none ∧ o' = none) ∨ ∃ a a', o = some a ∧ o' = some a' ∧ f a = f a' := by
  cases o with
  | none =>
    cases o' with
    | none => exact .inl ⟨rfl, rfl⟩
    | some a' => cases h
  | some a =>
    cases o' with
    | none => cases h
    | some a' => exact .inr ⟨a, a', rfl, rfl, Option.some.inj h⟩

namespace Consultation

variable {α β γ δ : Type} {seen : α → γ} {seen' : β → δ} {x y : Answers} {c d : Consultation α}

/-- Two consultations with answers of their own note the same, and the same is seen of what they
come to. -/
structure Alike (seen : α → γ) (x y : Answers) (c d : Consultation α) : Prop where
  result : seen (c.result x) = seen (d.result y)
  noted : c.noted x = d.noted y

/-- Things that are seen alike are come to alike. -/
theorem alike_pure {a b : α} (h : seen a = seen b) : Alike seen x y (pure a) (pure b) :=
  ⟨h, rfl⟩

/-- The same note is alike. -/
theorem alike_log (event : Event) : Alike id x y (log event) (log event) := ⟨rfl, rfl⟩

/-- The same note that may be left out is alike. -/
theorem alike_log? (event : Option Event) : Alike id x y (log? event) (log? event) := by
  cases event with
  | none => exact ⟨rfl, rfl⟩
  | some event => exact alike_log event

/-- Questions for a user are alike if the answers are. -/
theorem alike_askIdentity {seen : LookupResult → γ} {t t' : String}
    (h : seen (x.lookup t) = seen (y.lookup t')) :
    Alike seen x y (askIdentity t) (askIdentity t') := ⟨h, rfl⟩

/-- Questions for a grant are alike if the answers are. -/
theorem alike_askGrant {seen : GrantResult → γ} {r r' : GrantRequest}
    (h : seen (x.grant r) = seen (y.grant r')) :
    Alike seen x y (askGrant r) (askGrant r') := ⟨h, rfl⟩

/-- The events of one consultation after another are those of both. -/
theorem noted_bind (answers : Answers) (c : Consultation α) (f : α → Consultation β) :
    (c >>= f).noted answers = c.noted answers ++ (f (c.result answers)).noted answers := by
  change (c.bind f).noted answers = _
  induction c with
  | done a => rfl
  | note event next ih => exact congrArg (event :: ·) ih
  | lookup token next ih => exact ih (answers.lookup token)
  | grant request next ih => exact ih (answers.grant request)

/-- Consultations stay alike if they go on alike with whatever is seen alike. -/
theorem Alike.bind {f g : α → Consultation β} (h : Alike seen x y c d)
    (hnext : ∀ a b, seen a = seen b → Alike seen' x y (f a) (g b)) :
    Alike seen' x y (c >>= f) (d >>= g) := by
  have hnext := hnext _ _ h.result
  constructor
  · rw [result_bind, result_bind, hnext.result]
  · rw [noted_bind, noted_bind, h.noted, hnext.noted]

end Consultation

namespace Access

open Consultation (Alike)

/-- Two requests have no credential, or each has one from the same place about which the same is
said. -/
inductive SameCredential (x y : Answers) : Option Credential → Option Credential → Prop
  | none : SameCredential x y none none
  | some {c d : Credential} (source : c.source = d.source)
      (said : redacted (x.lookup c.token) = redacted (y.lookup d.token)) :
      SameCredential x y (some c) (some d)

variable {x y : Answers} {desk : Desk} {headers headers' : Headers}

/-- Credentials of which the same is said are resolved alike. -/
theorem alike_resolve {c d : Option Credential} (h : SameCredential x y c d) (backend : String)
    (optional : Bool) :
    Alike (Except.map fun r => redacted r.identity) x y (Resolution.resolve backend c optional)
      (Resolution.resolve backend d optional) := by
  cases h with
  | none => exact (Consultation.alike_log _).bind fun _ _ _ => Consultation.alike_pure rfl
  | some source said =>
    refine (Consultation.alike_askIdentity said).bind fun r r' hr => ?_
    rcases cases_of_except_map_eq hr with ⟨failure, rfl, rfl⟩ | ⟨o, o', rfl, rfl, hsame⟩
    · exact (Consultation.alike_log _).bind fun _ _ _ => Consultation.alike_pure rfl
    · -- the event tells where the credential was, and whether somebody was found
      rw [source]
      rcases cases_of_option_map_eq hsame with ⟨rfl, rfl⟩ | ⟨u, v, rfl, rfl, huv⟩
      · exact (Consultation.alike_log _).bind fun _ _ _ => Consultation.alike_pure rfl
      · refine (Consultation.alike_log _).bind fun _ _ _ => Consultation.alike_pure ?_
        exact congrArg (fun u => Except.ok (Except.ok (some u))) huv

/-- The same failure of a core is told alike. -/
theorem alike_tellCoreFailure (failure : CoreFailure) :
    Alike id x y (tellCoreFailure failure) (tellCoreFailure failure) :=
  (Consultation.alike_log? _).bind fun _ _ _ => Consultation.alike_pure rfl

private theorem alike_tellRefusal (reason : RefusalReason) :
    Alike id x y (tellRefusal reason) (tellRefusal reason) :=
  (Consultation.alike_log _).bind fun _ _ _ => Consultation.alike_pure rfl

/-- The same is found by credentials of which the same is said. -/
theorem alike_resolved (h : SameCredential x y (Credential.extract headers desk.cookieName)
      (Credential.extract headers' desk.cookieName)) (optional : Bool) :
    Alike redacted x y (resolved desk headers optional) (resolved desk headers' optional) := by
  refine (alike_resolve h desk.backend optional).bind fun r r' hr => ?_
  rcases cases_of_except_map_eq hr with ⟨failure, rfl, rfl⟩ | ⟨a, b, rfl, rfl, hab⟩
  · refine (alike_tellCoreFailure failure).bind fun _ _ htold => ?_
    exact Consultation.alike_pure (congrArg (fun told => redacted (.error told)) htold)
  · simp only
    rcases cases_of_except_map_eq hab with ⟨reason, ha, hb⟩ | ⟨u, v, ha, hb, huv⟩
    · rw [ha, hb]
      refine (alike_tellRefusal reason).bind fun _ _ htold => ?_
      exact Consultation.alike_pure (congrArg (fun told => redacted (.error told)) htold)
    · rw [ha, hb]
      exact Consultation.alike_pure (congrArg Except.ok huv)

private theorem alike_welcome (h : SameCredential x y (Credential.extract headers desk.cookieName)
      (Credential.extract headers' desk.cookieName)) :
    Alike redacted x y (welcome desk none headers) (welcome desk none headers') :=
  alike_resolved h true

/-- The same is demanded of those who are the same. -/
theorem map_demanded {r r' : Except RequestFailure (Option Identity)}
    (h : redacted r = redacted r') :
    (demanded r).map Identity.redacted = (demanded r').map Identity.redacted := by
  rcases cases_of_except_map_eq h with ⟨failure, rfl, rfl⟩ | ⟨o, o', rfl, rfl, hsame⟩
  · rfl
  · rcases cases_of_option_map_eq hsame with ⟨rfl, rfl⟩ | ⟨u, v, rfl, rfl, huv⟩
    · rfl
    · exact congrArg Except.ok huv

private theorem alike_guarded (h : SameCredential x y (Credential.extract headers desk.cookieName)
      (Credential.extract headers' desk.cookieName)) :
    Alike (Except.map Identity.redacted) x y (guarded desk headers) (guarded desk headers') := by
  refine (alike_resolved h false).bind fun r r' hr => ?_
  rcases cases_of_except_map_eq (map_demanded hr) with ⟨failure, ha, hb⟩ | ⟨u, v, ha, hb, huv⟩
  · rw [ha, hb]
    exact Consultation.alike_pure rfl
  · rw [ha, hb]
    have hid : u.id = v.id := Identity.id_eq_of_redacted huv
    simp only [hid]
    exact (Consultation.alike_log _).bind fun _ _ _ =>
      Consultation.alike_pure (congrArg Except.ok huv)

end Access

namespace Gateway

open Consultation (Alike)

variable {x y : Answers} {desk : Access.Desk} {request request' : Request} {α γ δ : Type}

/-- What is checked alike is answered alike. -/
theorem alike_orFailure {r r' : Except RequestFailure α} {f g : α → Consultation Response}
    {seen : α → γ} (h : r.map seen = r'.map seen)
    (hnext : ∀ a b, seen a = seen b → Alike id x y (f a) (g b)) :
    Alike id x y (orFailure r f) (orFailure r' g) := by
  rcases cases_of_except_map_eq h with ⟨failure, rfl, rfl⟩ | ⟨a, b, rfl, rfl, hab⟩
  · exact Consultation.alike_pure rfl
  · exact hnext a b hab

/-- The session answer is alike if the same is said of the credentials. -/
theorem alike_session (h : Access.SameCredential x y
      (Credential.extract request.headers desk.cookieName)
      (Credential.extract request'.headers desk.cookieName)) :
    Alike id x y (session desk request) (session desk request') := by
  refine (Access.alike_welcome h).bind fun r r' hr => alike_orFailure hr fun o o' hsame => ?_
  refine Consultation.alike_pure ?_
  rcases cases_of_option_map_eq hsame with ⟨rfl, rfl⟩ | ⟨u, v, rfl, rfl, huv⟩
  · rfl
  · have hview : u.view = v.view := Identity.view_eq_of_redacted huv
    simp only [sessionView, hview, Option.isSome_some]

private theorem alike_me {u v : Identity} (h : u.redacted = v.redacted) :
    Alike id x y (me desk (some u) request) (me desk (some v) request') :=
  Consultation.alike_pure (congrArg (Response.json 200) (Identity.view_eq_of_redacted h))

/-- The user's own record is told alike if the same is said of the credentials. -/
theorem alike_answerRoute_me (hmethod : request.method = request'.method)
    (h : Access.SameCredential x y (Credential.extract request.headers desk.cookieName)
      (Credential.extract request'.headers desk.cookieName)) :
    Alike id x y (answerRoute desk .me request) (answerRoute desk .me request') := by
  refine (Access.alike_guarded h).bind fun r r' hr => alike_orFailure hr fun u v huv => ?_
  rw [hmethod]
  split
  · exact alike_me huv
  · exact Consultation.alike_pure rfl

/-- A route answers alike if it does so to the methods that it has. -/
theorem alike_answered {shown : Response → δ} {answer answer' : Consultation Response}
    (answered : Bool) (h : Alike shown x y answer answer') :
    Alike shown x y (if !answered then return wrongMethod else answer)
      (if !answered then return wrongMethod else answer') := by
  cases answered with
  | false => exact Consultation.alike_pure rfl
  | true => exact h

/-- The health of the service is told alike. -/
theorem alike_answerRoute_health (hmethod : request.method = request'.method) :
    Alike id x y (answerRoute desk .health request) (answerRoute desk .health request') := by
  change Alike id x y (if !Route.health.answers request.method then return wrongMethod else _)
    (if !Route.health.answers request'.method then return wrongMethod else _)
  rw [hmethod]
  exact alike_answered _ (Consultation.alike_pure rfl)

/-- It is told alike who is logged in if the same is said of the credentials. -/
theorem alike_answerRoute_session (hmethod : request.method = request'.method)
    (h : Access.SameCredential x y (Credential.extract request.headers desk.cookieName)
      (Credential.extract request'.headers desk.cookieName)) :
    Alike id x y (answerRoute desk .session request) (answerRoute desk .session request') := by
  change Alike id x y (if !Route.session.answers request.method then return wrongMethod else _)
    (if !Route.session.answers request'.method then return wrongMethod else _)
  rw [hmethod]
  exact alike_answered _ (alike_session h)

/-- Clients are told alike of grants that are seen alike. -/
theorem alike_tellGrant {seen : Grant → γ} {shown : Response → δ} {r r' : GrantRequest}
    (said : (x.grant r).map seen = (y.grant r').map seen) {status : Nat}
    {event : Grant → Option Event} (hevent : ∀ g g', seen g = seen g' → event g = event g')
    (hshown : ∀ g g', seen g = seen g' →
      shown (.json status g.view) = shown (.json status g'.view)) :
    Alike shown x y (tellGrant r status event) (tellGrant r' status event) := by
  refine (Consultation.alike_askGrant said).bind fun a b hab => ?_
  rcases cases_of_except_map_eq hab with ⟨failure, rfl, rfl⟩ | ⟨g, g', rfl, rfl, hgrant⟩
  · refine (Access.alike_tellCoreFailure failure).bind fun _ _ htold => ?_
    exact Consultation.alike_pure (congrArg (fun told => shown (failureResponse told)) htold)
  · simp only [hevent g g' hgrant]
    exact (Consultation.alike_log? _).bind fun _ _ _ =>
      Consultation.alike_pure (hshown g g' hgrant)

end Gateway

end IdentityGateway
