import IdentityGateway.Core.Remote
import IdentityGateway.Proofs.Consultation
import IdentityGateway.Proofs.Json.Records

/-!
# Whose token it is, told by a remote core

A reply tells whose a token is if it is successful, came completely and can be read, or if its
status says that there is no such token. Whatever else becomes of a look-up is an outage, and never
taken for an answer.
-/

namespace IdentityGateway.Remote

open Json (Shape Value)

/-! ## Replies -/

/-- How the answer to a look-up is read, where a user that is left out is not yet taken for
`null`. -/
def userShape : Shape LookupDraft (Option (Option Identity)) where
  title := lookupShape.title
  fields := lookupShape.fields
  blank := lookupShape.blank
  finish draft := .ok draft.user

/-- A user that is left out is taken for `null`. -/
theorem lookupShape_eq_map : lookupShape = userShape.map (·.getD none) := rfl

/-- A reply is successful, came completely, and its body is read with the user `user`, with `null`
for it, or without it. -/
def Reply.Answers (reply : Reply) (user : Option (Option Identity)) : Prop :=
  Http.isSuccess reply.status = true ∧
    ∃ bytes, reply.body = some bytes ∧ userShape.ofBytes bytes = .ok user

/-- What became of a look-up tells whose the token is. -/
inductive Tells : Delivery → Option Identity → Prop where
  | user {reply : Reply} {u : Identity} (answers : reply.Answers (some (some u))) :
      Tells (some reply) (some u)
  | null {reply : Reply} (answers : reply.Answers (some none)) : Tells (some reply) none
  | absent {reply : Reply} (answers : reply.Answers none) : Tells (some reply) none
  | unknownToken {reply : Reply} (status : reply.status = 401 ∨ reply.status = 404) :
      Tells (some reply) none

/-- A core cannot be reached or understood. -/
inductive Outage : CoreFailure → Prop where
  | unavailable (detail : String) : Outage (.unavailable detail)
  | invalidResponse (detail : String) : Outage (.invalidResponse detail)

section

variable {reply : Reply} {found : Option Identity} {failure : CoreFailure}

/-- A reply whose body is read tells of the user as it is left out, `null` or given. -/
theorem Reply.Answers.tells {user : Option (Option Identity)} (h : reply.Answers user) :
    Tells (some reply) (user.getD none) := by
  rcases user with _ | _ | u
  · exact .absent h
  · exact .null h
  · exact .user h

/-- A reply that tells whose a token is either answers, or has a status for unknown tokens. -/
theorem tells_some_iff : Tells (some reply) found ↔
    (∃ user, reply.Answers user ∧ user.getD none = found) ∨
      (reply.status = 401 ∨ reply.status = 404) ∧ found = none := by
  constructor
  · intro h
    cases h with
    | user answers => exact .inl ⟨_, answers, rfl⟩
    | null answers => exact .inl ⟨_, answers, rfl⟩
    | absent answers => exact .inl ⟨_, answers, rfl⟩
    | unknownToken status => exact .inr ⟨status, rfl⟩
  · rintro (⟨user, hanswers, rfl⟩ | ⟨hstatus, rfl⟩)
    · exact hanswers.tells
    · exact .unknownToken hstatus

/-- A status for unknown tokens is not successful. -/
theorem isSuccess_eq_false {status : Nat} (h : status = 401 ∨ status = 404) :
    Http.isSuccess status = false := by
  rcases h with rfl | rfl <;> rfl

/-- The result of a successful reply is what its body is read as. -/
theorem lookupResult_of_isSuccess (hsuccess : Http.isSuccess reply.status = true) :
    lookupResult reply =
      match reply.body with
      | none => .error unreadable
      | some bytes => match userShape.ofBytes bytes with
        | .ok user => .ok (user.getD none)
        | .error _ => .error unreadable := by
  rw [lookupResult, if_pos hsuccess]
  cases reply.body with
  | none => rfl
  | some bytes =>
    simp only [lookupShape_eq_map, Shape.ofBytes_map]
    cases userShape.ofBytes bytes <;> rfl

/-- The result of another reply is settled by its status. -/
theorem lookupResult_of_not_isSuccess (hsuccess : Http.isSuccess reply.status = false) :
    lookupResult reply =
      if reply.status = 401 ∨ reply.status = 404 then .ok none
      else .error (unexpected .lookup reply.status) := by
  rw [lookupResult, if_neg (Bool.eq_false_iff.mp hsuccess)]

/-- A successful reply has a result exactly if it answers. -/
theorem lookupResult_eq_ok_iff_answers (hsuccess : Http.isSuccess reply.status = true) :
    lookupResult reply = .ok found ↔ ∃ user, reply.Answers user ∧ user.getD none = found := by
  rw [lookupResult_of_isSuccess hsuccess]
  simp only [Reply.Answers, hsuccess, true_and]
  cases reply.body with
  | none => simp
  | some bytes => cases hread : userShape.ofBytes bytes <;> simp [hread]

/-- A reply has a result exactly if it tells whose the token is. -/
theorem lookupResult_eq_ok_iff : lookupResult reply = .ok found ↔ Tells (some reply) found := by
  rw [tells_some_iff]
  cases hsuccess : Http.isSuccess reply.status with
  | true =>
    have hknown : ¬ (reply.status = 401 ∨ reply.status = 404) := by
      intro hstatus
      have hfalse := isSuccess_eq_false hstatus
      exact Bool.false_ne_true (hfalse.symm.trans hsuccess)
    rw [lookupResult_eq_ok_iff_answers hsuccess]
    simp [hknown]
  | false =>
    have hsilent : ∀ user, ¬ reply.Answers user := by
      intro user hanswers
      exact Bool.false_ne_true (hsuccess.symm.trans hanswers.1)
    rw [lookupResult_of_not_isSuccess hsuccess]
    simp only [hsilent, false_and, exists_false, false_or]
    split <;> rename_i hstatus
    · simp [hstatus, eq_comm]
    · simp [hstatus]

/-- A body that breaks off does not tell whose a token is. -/
theorem not_tells_of_body_eq_none (hsuccess : Http.isSuccess reply.status = true)
    (hbody : reply.body = none) (found : Option Identity) : ¬ Tells (some reply) found := by
  rw [← lookupResult_eq_ok_iff, lookupResult_of_isSuccess hsuccess, hbody]
  nofun

/-- A reply without a result is an outage. -/
theorem outage_of_lookupResult (h : lookupResult reply = .error failure) : Outage failure := by
  cases hsuccess : Http.isSuccess reply.status with
  | true =>
    rw [lookupResult_of_isSuccess hsuccess] at h
    split at h
    · cases h
      exact .invalidResponse _
    · split at h
      · cases h
      · cases h
        exact .invalidResponse _
  | false =>
    rw [lookupResult_of_not_isSuccess hsuccess] at h
    split at h
    · cases h
    · cases h
      exact .unavailable _

end

/-! ## Deliveries -/

section

variable {τ : Type} {transport : Transport τ} {base token : String} {operation : Operation}
  {body : Value} {state : τ} {found : Option Identity} {moment : Moment}

/-- What becomes of a body that is brought to an operation. Nothing comes back from an address that
cannot be sent to. -/
def delivered (transport : Transport τ) (base : String) (operation : Operation) (body : Value)
    (state : τ) : Delivery :=
  match Url.ofText? (address base operation) with
  | none => none
  | some url =>
    if url.takesRequests then (transport.deliver (request base operation body) state).1.1 else none

/-- A body that is sent gives the reply that it is delivered with, or an outage if there is
none. -/
theorem send_result (transport : Transport τ) (base : String) (operation : Operation)
    (body : Value) (state : τ) :
    (∃ reply, delivered transport base operation body state = some reply ∧
      (send transport base operation body state).1.result = .ok reply) ∨
    (delivered transport base operation body state = none ∧ ∃ failure, Outage failure ∧
      (send transport base operation body state).1.result = .error failure) := by
  unfold delivered send
  cases Url.ofText? (address base operation) with
  | none => exact .inr ⟨rfl, _, .unavailable _, rfl⟩
  | some url =>
    cases htakes : url.takesRequests with
    | false =>
      simp only [htakes, Bool.false_eq_true, if_false]
      exact .inr ⟨trivial, _, .unavailable _, rfl⟩
    | true =>
      simp only [htakes, if_true]
      cases (transport.deliver (request base operation body) state).1.1 with
      | none => exact .inr ⟨rfl, _, .unavailable _, rfl⟩
      | some reply => exact .inl ⟨reply, rfl, rfl⟩

/-- What comes back, if anything does, when the core is asked whose a token is. -/
def lookedUp (transport : Transport τ) (base token : String) (state : τ) : Delivery :=
  delivered transport base .lookup (lookupBody token) state

/-- What the core says of a token is the result of the reply. -/
theorem answers_lookup (transport : Transport τ) (base : String) (moment : Moment) (state : τ)
    (token : String) :
    ((core transport base).answers moment state).lookup token =
      (send transport base .lookup (lookupBody token) state).1.result.bind lookupResult := by
  simp only [Core.answers, core]

/-- The core knows whose a token is, or that it is nobody's, exactly if it was told so. -/
theorem lookup_eq_ok_iff :
    ((core transport base).answers moment state).lookup token = .ok found ↔
      Tells (lookedUp transport base token state) found := by
  rw [answers_lookup, lookedUp]
  rcases send_result transport base .lookup (lookupBody token) state with
    ⟨reply, hdelivered, hresult⟩ | ⟨hdelivered, failure, -, hresult⟩
  · rw [hdelivered, hresult]
    exact lookupResult_eq_ok_iff
  · rw [hdelivered, hresult]
    constructor <;> nofun

/-- What the core says instead is an outage. -/
theorem outage_of_lookup {failure : CoreFailure}
    (h : ((core transport base).answers moment state).lookup token = .error failure) :
    Outage failure := by
  rw [answers_lookup] at h
  rcases send_result transport base .lookup (lookupBody token) state with
    ⟨reply, -, hresult⟩ | ⟨-, outage, houtage, hresult⟩
  · rw [hresult] at h
    exact outage_of_lookupResult h
  · rw [hresult] at h
    cases h
    exact houtage

/-- If the core was not told whose a token is, it says that there is an outage. -/
theorem exists_outage
    (h : ∀ found, ¬ Tells (lookedUp transport base token state) found) :
    ∃ failure, Outage failure ∧
      ((core transport base).answers moment state).lookup token = .error failure := by
  cases hsaid : ((core transport base).answers moment state).lookup token with
  | error failure => exact ⟨failure, outage_of_lookup hsaid, rfl⟩
  | ok found => exact absurd (lookup_eq_ok_iff.mp hsaid) (h found)

end

end IdentityGateway.Remote
