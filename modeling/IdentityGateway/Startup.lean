import IdentityGateway.Core.Memory
import IdentityGateway.Core.Remote
import IdentityGateway.Gateway.Service

/-!
# Startup

What the gateway makes of its settings before it serves: the choice of a core, and the
line it leaves behind when it cannot start.
-/

namespace IdentityGateway.Startup

/-- The core that settings ask for. -/
inductive CoreChoice where
  | memory (mode : GrantMode) (lifetime : Nat)
  | remote (url : String)
  deriving DecidableEq, Repr

/-- A remote core is used if there is an address for one. -/
def coreChoice (settings : Settings) : CoreChoice :=
  match settings.coreUrl with
  | some url => .remote url
  | none => .memory settings.grantMode settings.accessLifetime

/-- How the log and the resolver call a chosen core. -/
def CoreChoice.backend : CoreChoice → String
  | .memory _ _ => "memory"
  | .remote _ => "remote"

/-- What is noted of the core at the start. The one in memory is only for development, which the log
warns of. -/
def CoreChoice.event : CoreChoice → Event
  | .memory mode _ => .memoryCoreChosen mode
  | .remote url => .remoteCoreChosen url

/-- The policy of a core in memory that stores passwords by a scheme. -/
def policy (scheme : Password.Scheme) (mode : GrantMode) (lifetime : Nat) : Memory.Policy :=
  ⟨mode, lifetime, scheme⟩

/-- Why the gateway does not start. -/
inductive Failure where
  | settings (e : SettingsError)
  /-- Somebody else listens at the address. -/
  | addressInUse
  deriving DecidableEq, Repr

/-- The text shown for a failure. -/
def Failure.message : Failure → String
  | .settings e => e.message
  | .addressInUse => "Address already in use (os error 98)"

/-- The line left behind by a failure. -/
def Failure.line (failure : Failure) : String :=
  "Error: " ++ failure.message

/-- What the process ends with if it cannot start, whatever the reason. -/
def Failure.exitCode : Nat := 1

/-- The settings to start with. Settings are judged before the address is taken. -/
def start (lookup : String → Option String) (addressIsFree : Bool) :
    Except Failure Settings :=
  match Settings.ofLookup lookup with
  | .error e => .error (.settings e)
  | .ok settings => if addressIsFree then .ok settings else .error .addressInUse

end IdentityGateway.Startup
