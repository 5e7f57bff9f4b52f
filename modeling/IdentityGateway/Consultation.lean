import IdentityGateway.Account
import IdentityGateway.Event
import IdentityGateway.Grant

/-!
# Consultations

What the gateway does for a request, as far as it depends on a core: it asks, goes on
with the answer, and notes events. Which core answers, and when, is left open.
-/

namespace IdentityGateway

/-- What a core may be asked to hand out a grant for. -/
inductive GrantRequest where
  | login (email password : String)
  | register (account : NewAccount)
  | refresh (token : String)
  deriving DecidableEq, Repr

/-- One question to a core, as it is recorded: whose token it is, or a grant. -/
inductive Call where
  | lookup (token : String)
  | grant (request : GrantRequest)
  deriving DecidableEq, Repr

/-- What a core says about a token. -/
abbrev LookupResult := Except CoreFailure (Option Identity)

/-- What a core says to a request for a grant. -/
abbrev GrantResult := Except CoreFailure Grant

/-- Something that comes to an `α` after asking a core. -/
inductive Consultation (α : Type) where
  | done (a : α)
  | note (event : Event) (next : Consultation α)
  | lookup (token : String) (next : LookupResult → Consultation α)
  | grant (request : GrantRequest) (next : GrantResult → Consultation α)

namespace Consultation

/-- One consultation after another. -/
def bind {α β : Type} : Consultation α → (α → Consultation β) → Consultation β
  | .done a, f => f a
  | .note event next, f => .note event (next.bind f)
  | .lookup token next, f => .lookup token fun r => (next r).bind f
  | .grant request next, f => .grant request fun r => (next r).bind f

instance : Monad Consultation where
  pure := .done
  bind := bind

/-- Asks the core whose token it is, and comes to what the core says. -/
def askIdentity (token : String) : Consultation LookupResult :=
  .lookup token .done

/-- Asks the core for a grant, and comes to what the core says. -/
def askGrant (request : GrantRequest) : Consultation GrantResult :=
  .grant request .done

/-- A line of the log on the way, which nothing waits for. -/
def log (event : Event) : Consultation Unit :=
  .note event (.done ())

/-- Notes an event, where some outcomes are too usual to be noted. -/
def log? : Option Event → Consultation Unit
  | none => .done ()
  | some event => log event

end Consultation

end IdentityGateway
