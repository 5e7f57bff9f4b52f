import IdentityGateway.Credential
import IdentityGateway.Failure
import IdentityGateway.Identity
import IdentityGateway.Settings

/-!
# Events

What the gateway notes in its log. No event has a place for a token or a password; only the text
of a core's failure is noted as it is.
-/

namespace IdentityGateway

/-- What a resolution came to, in one word. -/
inductive ResolutionLabel where
  | resolved
  | absent
  | failed
  deriving DecidableEq, Repr

/-- One line of the log, with the values that it shows. -/
inductive Event where
  | remoteCoreChosen (url : String)
  | memoryCoreChosen (mode : GrantMode)
  | credentialMissing (optional : Bool) (label : ResolutionLabel)
  | lookupFailed (backend : String) (failure : CoreFailure)
  | identityResolution (backend : String) (source : CredentialSource) (optional : Bool)
      (label : ResolutionLabel)
  | authenticationFailed (reason : RefusalReason)
  | coreFailed (failure : CoreFailure)
  | coreBroken (failure : CoreFailure)
  | authenticated (user : UserId)
  | accountRegistered (user : UserId)
  | loginSucceeded (user : UserId)
  | deadlineExceeded
  deriving DecidableEq, Repr

namespace Event

/-- How the outcome of a resolution is named in the log. -/
def labelText : ResolutionLabel → String
  | .resolved => "resolved"
  | .absent => "absent"
  | .failed => "failed"

/-- How a flag is named in the log. -/
def boolText : Bool → String
  | true => "true"
  | false => "false"

/-- How the log names the place where a credential was found. -/
def sourceText : CredentialSource → String
  | .header => "Header"
  | .cookie => "Cookie"

/-- How the log names what a core issues. -/
def modeText : GrantMode → String
  | .session => "Session"
  | .tokenPair => "TokenPair"

/-- The levels of the log, by which lines are left out. -/
inductive Level where
  | debug
  | info
  | warn
  | error
  deriving DecidableEq, Repr

/-- How a level is named at the front of a line of the log. -/
def Level.text : Level → String
  | .debug => "DEBUG"
  | .info => "INFO"
  | .warn => "WARN"
  | .error => "ERROR"

/-- The level that an event is noted at. -/
def level : Event → Level
  | .remoteCoreChosen _ | .accountRegistered _ | .loginSucceeded _ => .info
  | .memoryCoreChosen _ | .lookupFailed _ _ | .authenticationFailed _
  | .deadlineExceeded => .warn
  | .credentialMissing _ _ | .identityResolution _ _ _ _ | .authenticated _ => .debug
  | .coreFailed _ | .coreBroken _ => .error

/-- The message of an event and its fields. -/
def message : Event → String
  | .remoteCoreChosen url => "using remote auth core url=" ++ Text.quoted url
  | .memoryCoreChosen mode =>
    "using in-memory auth core (development only) mode=" ++ modeText mode
  | .credentialMissing optional label =>
    "no credential on request optional=" ++ boolText optional ++
      " outcome=" ++ Text.quoted (labelText label)
  | .lookupFailed backend failure =>
    "identity lookup failed backend=" ++ Text.quoted backend ++ " error=" ++ failure.message
  | .identityResolution backend source optional label =>
    "identity resolution backend=" ++ Text.quoted backend ++ " source=" ++ sourceText source ++
      " optional=" ++ boolText optional ++ " outcome=" ++ Text.quoted (labelText label)
  | .authenticationFailed reason => "authentication failed reason=" ++ reason.message
  | .coreFailed failure => "auth core failure error=" ++ failure.message
  | .coreBroken failure => "auth core internal error error=" ++ failure.message
  | .authenticated user => "request authenticated user_id=" ++ user.display
  | .accountRegistered user => "account registered user_id=" ++ user.display
  | .loginSucceeded user => "login succeeded user_id=" ++ user.display
  | .deadlineExceeded => "request deadline exceeded"

/-- An event as it stands in the log: its level, its message and its fields. -/
def line (event : Event) : String :=
  event.level.text ++ " " ++ event.message

/-- The event of a core's failure that is told to a client; the core's own answers about
credentials are none. -/
def ofCoreFailure : CoreFailure → Option Event
  | .invalidCredentials | .emailTaken => none
  | .unavailable detail => some (.coreFailed (.unavailable detail))
  | .invalidResponse detail => some (.coreFailed (.invalidResponse detail))
  | .internal detail => some (.coreBroken (.internal detail))

end Event

end IdentityGateway
