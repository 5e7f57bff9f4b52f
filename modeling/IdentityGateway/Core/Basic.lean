import IdentityGateway.Consultation

/-!
# Authentication cores

A core is a state with answers to calls. A call happens at a moment, which supplies the
time and whatever has to be unpredictable, and may take a while to be answered.
-/

namespace IdentityGateway

/-- What a call reads off the clock, and fresh values for it. -/
structure Moment where
  now : Timestamp
  /-- The reading when tokens are handed out, which is the last one of the call. -/
  issuedAt : Timestamp := now
  userId : String
  salt : List UInt8
  /-- Why no salt could be drawn, if that is so. -/
  saltFault : Option String := none
  /-- The session token, or the access token. -/
  firstToken : String
  /-- The refresh token. -/
  secondToken : String
  deriving DecidableEq, Repr

/-- What a core answers, and how many milliseconds it takes to, which count against the time
limit. -/
structure Answer (α : Type) where
  result : Except CoreFailure α
  delay : Nat

/-- What the gateway needs of a core: its name in the log, and how it answers a look-up or a request
for a grant at a moment, going from one state `σ` to the next. -/
structure Core (σ : Type) where
  name : String
  lookup : Moment → String → σ → Answer (Option Identity) × σ
  grant : Moment → GrantRequest → σ → Answer Grant × σ

/-- How a consultation went: what it came to unless the time was up, the calls and events
in order, and the state of the core afterwards. -/
structure Run (α σ : Type) where
  outcome : Option α
  calls : List Call
  events : List Event
  state : σ

namespace Run

variable {α σ : Type}

/-- A run after an event. -/
def noting (event : Event) (r : Run α σ) : Run α σ :=
  { r with events := event :: r.events }

/-- A run after a call. -/
def calling (call : Call) (r : Run α σ) : Run α σ :=
  { r with calls := call :: r.calls }

end Run

namespace Consultation

variable {α σ : Type}

/-- The longest wait in milliseconds, which is thirty years. The bound is not one of the gateway:
it is that of the timers of the runtime, which both the deadline and the delay of a core are
waited for with. -/
def longestWait : Nat := 30 * 365 * 24 * 60 * 60 * 1000

/-- The milliseconds that a timer waits when it is set to some number of them. -/
def waited (milliseconds : Nat) : Nat :=
  min milliseconds longestWait

/-- Whether the time is up after some milliseconds. -/
def isLate (limit : Option Nat) (elapsed : Nat) : Bool :=
  limit.any fun milliseconds => waited milliseconds < elapsed

/-- Holds a consultation with a core. It is cut off when the answers together take longer
than the limit; an answer that comes just in time counts. -/
def run (core : Core σ) (moment : Moment) (limit : Option Nat) (elapsed : Nat) :
    Consultation α → σ → Run α σ
  | .done a, s => ⟨some a, [], [], s⟩
  | .note event next, s => (next.run core moment limit elapsed s).noting event
  | .lookup token next, s =>
    let (answer, s) := core.lookup moment token s
    let elapsed := elapsed + waited answer.delay
    let rest :=
      if isLate limit elapsed then ⟨none, [], [], s⟩
      else (next answer.result).run core moment limit elapsed s
    rest.calling (.lookup token)
  | .grant request next, s =>
    let (answer, s) := core.grant moment request s
    let elapsed := elapsed + waited answer.delay
    let rest :=
      if isLate limit elapsed then ⟨none, [], [], s⟩
      else (next answer.result).run core moment limit elapsed s
    rest.calling (.grant request)

end Consultation

end IdentityGateway
