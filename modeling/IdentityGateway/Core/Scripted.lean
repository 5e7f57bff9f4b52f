import IdentityGateway.Core.Basic

/-!
# A core that follows a script

A core whose answers are written down beforehand: by token for look-ups, in order for
grants. It shows how the gateway takes answers of any kind.
-/

namespace IdentityGateway.Scripted

/-- What a script lets the core say: a failure of its own, a text to be read like a remote core's,
or nothing. -/
inductive Reply where
  | failure (failure : CoreFailure)
  /-- A text of JSON. -/
  | text (bytes : List UInt8)
  | nothing
  deriving DecidableEq, Repr

/-- One reply of a script, after a delay in milliseconds. -/
structure Step where
  delay : Nat
  reply : Reply
  deriving DecidableEq, Repr

/-- A step that says nothing at once. -/
def Step.empty : Step := ⟨0, .nothing⟩

/-- What a core is to say, by token for look-ups and in order for each kind of grant. -/
structure Script where
  lookups : List (String × Step)
  otherLookups : Step
  logins : List Step
  registrations : List Step
  refreshes : List Step
  deriving DecidableEq, Repr

/-- How many grants of each kind were asked for. -/
structure Progress where
  logins : Nat := 0
  registrations : Nat := 0
  refreshes : Nat := 0
  deriving DecidableEq, Repr

/-- The step of the `n`-th call; the last one is used again. -/
def stepAt (steps : List Step) (n : Nat) : Step :=
  (steps[n]?).getD (steps.getLast?.getD .empty)

/-- A reply taken as the answer to a look-up: nothing means that nobody has the token. -/
def Reply.lookup : Reply → LookupResult
  | .failure f => .error f
  | .nothing => .ok none
  | .text bytes => match Identity.ofBytes bytes with
    | .ok u => .ok (some u)
    | .error f => .error (.invalidResponse (f.message bytes))

/-- A reply taken as the answer to a request for a grant, which cannot be answered by nothing. -/
def Reply.grant : Reply → GrantResult
  | .failure f => .error f
  | .nothing => .error (.unavailable "unscripted")
  | .text bytes => match Grant.ofBytes bytes with
    | .ok g => .ok g
    | .error (.fault f) => .error (.invalidResponse (f.message bytes))
    | .error (.mismatch m) => .error (.invalidResponse m.message)

/-- The step for a request, and the progress after it. -/
def Script.next (script : Script) (request : GrantRequest) (p : Progress) :
    Step × Progress :=
  match request with
  | .login _ _ => (stepAt script.logins p.logins, { p with logins := p.logins + 1 })
  | .register _ =>
    (stepAt script.registrations p.registrations,
      { p with registrations := p.registrations + 1 })
  | .refresh _ =>
    (stepAt script.refreshes p.refreshes, { p with refreshes := p.refreshes + 1 })

/-- The core that follows a script. -/
def core (script : Script) : Core Progress where
  name := "scripted"
  lookup _ token p :=
    let step := ((script.lookups.find? fun e => e.1 == token).map (·.2)).getD
      script.otherLookups
    (⟨step.reply.lookup, step.delay⟩, p)
  grant _ request p :=
    let (step, p) := script.next request p
    (⟨step.reply.grant, step.delay⟩, p)

end IdentityGateway.Scripted
