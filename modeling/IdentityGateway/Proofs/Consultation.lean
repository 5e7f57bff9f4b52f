import IdentityGateway.Core.Basic

/-!
# What consultations ask and come to

A consultation of the gateway asks at most one question, and that before anything else. So it
is settled by the answer of the core, and by whether the answer comes in time.
-/

namespace IdentityGateway

/-- What is said to every call. -/
structure Answers where
  lookup : String → LookupResult
  grant : GrantRequest → GrantResult

namespace Core

variable {σ : Type}

/-- What a core would say at a moment. -/
def answers (core : Core σ) (moment : Moment) (s : σ) : Answers where
  lookup token := (core.lookup moment token s).1.result
  grant request := (core.grant moment request s).1.result

/-- The milliseconds that a core takes to answer a call. -/
def delay (core : Core σ) (moment : Moment) (s : σ) : Call → Nat
  | .lookup token => (core.lookup moment token s).1.delay
  | .grant request => (core.grant moment request s).1.delay

/-- The state of a core after a question, if there is one. -/
def after (core : Core σ) (moment : Moment) (s : σ) : Option Call → σ
  | none => s
  | some (.lookup token) => (core.lookup moment token s).2
  | some (.grant request) => (core.grant moment request s).2

/-- Whether the answer to a question comes in time, if there is one. -/
def isInTime (core : Core σ) (moment : Moment) (limit : Option Nat) (elapsed : Nat) (s : σ) :
    Option Call → Bool
  | none => true
  | some call =>
    !Consultation.isLate limit (elapsed + Consultation.waited (core.delay moment s call))

end Core

namespace Consultation

/-- What a consultation comes to with some answers. -/
def result {α : Type} (answers : Answers) : Consultation α → α
  | .done a => a
  | .note _ next => next.result answers
  | .lookup token next => (next (answers.lookup token)).result answers
  | .grant request next => (next (answers.grant request)).result answers

/-- The events of a consultation with some answers. -/
def noted {α : Type} (answers : Answers) : Consultation α → List Event
  | .done _ => []
  | .note event next => event :: next.noted answers
  | .lookup token next => (next (answers.lookup token)).noted answers
  | .grant request next => (next (answers.grant request)).noted answers

/-- A consultation asks a question before anything else, or none at all. -/
inductive Asks {α : Type} : Option Call → Consultation α → Prop where
  | done {a : α} : Asks none (.done a)
  | note {event : Event} {next : Consultation α} (h : Asks none next) :
      Asks none (.note event next)
  | lookup {token : String} {next : LookupResult → Consultation α}
      (h : ∀ r, Asks none (next r)) : Asks (some (.lookup token)) (.lookup token next)
  | grant {request : GrantRequest} {next : GrantResult → Consultation α}
      (h : ∀ r, Asks none (next r)) : Asks (some (.grant request)) (.grant request next)

section

variable {α β σ : Type} {answers : Answers} {question : Option Call} {c : Consultation α}
  {core : Core σ} {moment : Moment} {limit : Option Nat} {elapsed : Nat} {s : σ}

/-! ## Results of the parts -/

/-- Something already known is the result. -/
@[simp] theorem result_pure (a : α) : (pure a : Consultation α).result answers = a := rfl

/-- One consultation after another comes to what the second comes to with the result of the
first. -/
@[simp] theorem result_bind (c : Consultation α) (f : α → Consultation β) :
    (c >>= f).result answers = (f (c.result answers)).result answers := by
  change (c.bind f).result answers = _
  induction c with
  | done a => rfl
  | note event next ih => exact ih
  | lookup token next ih => exact ih (answers.lookup token)
  | grant request next ih => exact ih (answers.grant request)

/-- The result of a question for a user is the answer. -/
@[simp] theorem result_askIdentity (token : String) :
    (askIdentity token).result answers = answers.lookup token := rfl

/-- The result of a question for a grant is the answer. -/
@[simp] theorem result_askGrant (request : GrantRequest) :
    (askGrant request).result answers = answers.grant request := rfl

/-! ## Questions of the parts -/

/-- Something already known asks nothing. -/
theorem asks_pure (a : α) : Asks none (pure a : Consultation α) := .done

/-- A note asks nothing. -/
theorem asks_log (event : Event) : Asks none (log event) := .note .done

/-- A note that may be left out asks nothing. -/
theorem asks_log? (event : Option Event) : Asks none (log? event) := by
  cases event with
  | none => exact .done
  | some event => exact asks_log event

/-- A question for a user asks for it. -/
theorem asks_askIdentity (token : String) :
    Asks (some (.lookup token)) (askIdentity token) := .lookup fun _ => .done

/-- The consultation that only asks for a grant makes that call and no other. -/
theorem asks_askGrant (request : GrantRequest) :
    Asks (some (.grant request)) (askGrant request) := .grant fun _ => .done

/-- A consultation still asks the same if nothing is asked after it. -/
theorem Asks.bind {f : α → Consultation β} (h : Asks question c) (hf : ∀ a, Asks none (f a)) :
    Asks question (c >>= f) := by
  change Asks question (c.bind f)
  induction h with
  | done => exact hf _
  | note _ ih => exact .note ih
  | lookup _ ih => exact .lookup ih
  | grant _ ih => exact .grant ih

/-! ## Runs -/

/-- A consultation that asks nothing does not depend on the answers. -/
theorem Asks.run_of_none (h : Asks none c) (answers : Answers) :
    c.run core moment limit elapsed s = ⟨some (c.result answers), [], c.noted answers, s⟩ := by
  -- the induction is on what is asked, where the two questions do not come up
  generalize hquestion : (none : Option Call) = question at h
  induction h with
  | done => rfl
  | note _ ih => rw [run, ih hquestion]; rfl
  | lookup _ _ => cases hquestion
  | grant _ _ => cases hquestion

/-- A question for a user is a call, after which the consultation goes on unless it is late. -/
theorem run_lookup (token : String) (next : LookupResult → Consultation α) :
    (Consultation.lookup token next).run core moment limit elapsed s =
      (if isLate limit (elapsed + waited (core.delay moment s (.lookup token))) then
        ⟨none, [], [], core.after moment s (some (.lookup token))⟩
      else (next ((core.answers moment s).lookup token)).run core moment limit
        (elapsed + waited (core.delay moment s (.lookup token)))
        (core.after moment s (some (.lookup token)))).calling (.lookup token) := rfl

/-- A question for a grant is a call, after which the consultation goes on unless it is late. -/
theorem run_grant (request : GrantRequest) (next : GrantResult → Consultation α) :
    (Consultation.grant request next).run core moment limit elapsed s =
      (if isLate limit (elapsed + waited (core.delay moment s (.grant request))) then
        ⟨none, [], [], core.after moment s (some (.grant request))⟩
      else (next ((core.answers moment s).grant request)).run core moment limit
        (elapsed + waited (core.delay moment s (.grant request)))
        (core.after moment s (some (.grant request)))).calling (.grant request) := rfl

/-- A consultation with a core makes the call that it asks, and is settled by the answer unless
that is late. -/
theorem Asks.run_eq (h : Asks question c) (core : Core σ) (moment : Moment) (limit : Option Nat)
    (elapsed : Nat) (s : σ) :
    c.run core moment limit elapsed s =
      if core.isInTime moment limit elapsed s question then
        ⟨some (c.result (core.answers moment s)), question.toList,
          c.noted (core.answers moment s), core.after moment s question⟩
      else ⟨none, question.toList, [], core.after moment s question⟩ := by
  cases h with
  | done => rfl
  | note h => exact (Asks.note h).run_of_none _
  | @lookup token next h =>
    rw [run_lookup, (h _).run_of_none (core.answers moment s), Core.isInTime]
    cases isLate limit (elapsed + waited (core.delay moment s (.lookup token))) <;> rfl
  | @grant request next h =>
    rw [run_grant, (h _).run_of_none (core.answers moment s), Core.isInTime]
    cases isLate limit (elapsed + waited (core.delay moment s (.grant request))) <;> rfl

/-- A consultation that is not limited always comes to its result. -/
theorem Asks.run_unlimited (h : Asks question c) (core : Core σ) (moment : Moment) (elapsed : Nat)
    (s : σ) :
    c.run core moment none elapsed s = ⟨some (c.result (core.answers moment s)), question.toList,
      c.noted (core.answers moment s), core.after moment s question⟩ := by
  have hintime : core.isInTime moment none elapsed s question = true := by
    cases question <;> rfl
  rw [h.run_eq, if_pos hintime]

end

end Consultation

end IdentityGateway
