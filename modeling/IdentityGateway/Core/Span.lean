import IdentityGateway.Core.Memory

/-!
# Lifetimes in words

A lifetime is asked for as an unsigned word, kept as a signed span of seconds and told as an
unsigned word again, all of 64 bits. It is cut down to the longest lifetime before it gets a sign.
-/

namespace IdentityGateway.Memory

/-- The longest span in seconds: its milliseconds are just a signed word. -/
def longestSpan : Int64 := 9223372036854775

/-- The seconds as a span, unless their milliseconds would not fit into a signed word. -/
def span? (seconds : Int64) : Option Int64 :=
  if -longestSpan ≤ seconds ∧ seconds ≤ longestSpan then some seconds else none

/-- The span that is kept of a lifetime, none at all if it has no span. -/
def keptSpan (lifetime : UInt64) : Int64 :=
  (span? (min lifetime (UInt64.ofNat longestLifetime)).toInt64).getD 0

/-- The seconds that are told of a span, which are none if it is negative. -/
def toldSeconds (span : Int64) : UInt64 :=
  (max span 0).toUInt64

/-- The span between the issue and the end of a token that look-ups take. -/
def tokenSpan (mode : GrantMode) (lifetime : UInt64) : Int64 :=
  match mode with
  | .session => keptSpan (UInt64.ofNat Grant.sessionLifetime)
  | .tokenPair => keptSpan lifetime

/-- The lifetime that is told of such a token. -/
def toldLifetime (mode : GrantMode) (lifetime : UInt64) : UInt64 :=
  match mode with
  | .session => UInt64.ofNat Grant.sessionLifetime
  | .tokenPair => toldSeconds (keptSpan lifetime)

end IdentityGateway.Memory
