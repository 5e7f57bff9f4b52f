import IdentityGateway.Core.Entropy
import IdentityGateway.Http.Wire
import IdentityGateway.Password.Light
import IdentityGateway.Startup
import Std.Time.DateTime.Timestamp

/-!
# The program

The gateway on one connection, which is standard input and output. Settings come from the
environment and the log goes to standard error. There is no way from here to a remote
core, so that one counts as unreachable, and no slow hash for passwords, so that they are
stored by the light scheme.
-/

open IdentityGateway

/-- The settings of the environment that are given. -/
def readEnvironment : IO (List (String × String)) :=
  Settings.names.filterMapM fun name => do
    return (← IO.getEnv name).map fun value => (name, value)

/-- The bytes that are left on a stream. -/
partial def readAll (stream : IO.FS.Stream) (before : ByteArray) : IO ByteArray := do
  let more ← stream.read 65536
  if more.isEmpty then return before else readAll stream (before ++ more)

/-- The present. -/
def present : IO Timestamp := do
  let now ← Std.Time.Timestamp.now
  let nanos := now.toNanosecondsSinceUnixEpoch.val
  return ⟨nanos / 1000000000, (nanos % 1000000000).toNat⟩

/-- The present with fresh values. -/
def freshMoment : IO Moment := do
  let bytes ← IO.getRandomBytes (USize.ofNat Entropy.momentSize)
  return Entropy.moment (← present) bytes.toList

/-- Writes the events that matter to the log. -/
def report (events : List Event) : IO Unit :=
  (events.filter fun e => e.level ≠ .debug).forM fun e => IO.eprintln e.line

/-- Serves the requests of a connection in order. -/
def serveAll {σ : Type} (service : Gateway.Service) (core : Core σ) (state : σ)
    (requests : List Http.Request) (output : IO.FS.Stream) : IO Unit := do
  let mut state := state
  for request in requests do
    let id := Entropy.identifier (← IO.getRandomBytes 16).toList
    let served := Gateway.serve service core (← freshMoment) (Http.asciiBytes id) request state
    report served.events
    output.write ⟨(Http.Wire.responseBytes served.response).toArray⟩
    output.flush
    state := served.state

def main : IO UInt32 := do
  let environment ← readEnvironment
  match Startup.start (fun name => environment.lookup name) true with
  | .error failure =>
    IO.eprintln failure.line
    return UInt32.ofNat Startup.Failure.exitCode
  | .ok settings =>
    let choice := Startup.coreChoice settings
    report [choice.event]
    let input ← readAll (← IO.getStdin) .empty
    let requests := Http.Wire.requests (input.size + 1) input.toList
    let output ← IO.getStdout
    let service := Gateway.Service.ofSettings settings choice.backend
    match choice with
    | .memory mode lifetime =>
      let policy := Startup.policy Password.lightScheme mode lifetime
      serveAll service (Memory.core policy) .empty requests output
    | .remote url => serveAll service (Remote.core Remote.unreachable url) () requests output
    return 0
