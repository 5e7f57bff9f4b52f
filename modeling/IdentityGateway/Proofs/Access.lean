import IdentityGateway.Access
import IdentityGateway.Proofs.Consultation

/-!
# What access comes to

The credential of a request settles what the core is asked: whose token it is, or nothing. With
the answer it comes to somebody, to nobody, or to trouble with the core. Where an identity is
required and where it is welcome the same is found, and they differ only in what they make of
nobody.
-/

namespace IdentityGateway.Access

open Http (Headers)

/-- What the credential of a request comes to. -/
inductive Finding where
  | somebody (u : Identity)
  | nobody (reason : RefusalReason)
  | trouble (failure : CoreFailure)
  deriving DecidableEq, Repr

/-- What a credential comes to with the answers to look-ups. -/
def finding (lookup : String → LookupResult) : Option Credential → Finding
  | none => .nobody .missingCredential
  | some credential =>
    match lookup credential.token with
    | .error failure => .trouble failure
    | .ok none => .nobody .invalidCredential
    | .ok (some u) => .somebody u

namespace Finding

/-- What is found, where an identity is required. -/
def required : Finding → Except RequestFailure Identity
  | .somebody u => .ok u
  | .nobody reason => .error (.ofRefusal reason)
  | .trouble failure => .error (.ofCore failure)

/-- What is found, where an identity is welcome. -/
def welcome : Finding → Except RequestFailure (Option Identity)
  | .somebody u => .ok (some u)
  | .nobody _ => .ok none
  | .trouble failure => .error (.ofCore failure)

end Finding

/-- The question that the credential of a request puts to the core. -/
def question (desk : Desk) (headers : Headers) : Option Call :=
  (Credential.extract headers desk.cookieName).map fun credential => .lookup credential.token

section

variable {desk : Desk} {headers : Headers} {answers : Answers} {optional : Bool}

open Consultation (Asks)

/-! ## Questions -/

/-- A credential is resolved by asking whose token it is. -/
theorem asks_resolve (backend : String) (credential : Option Credential) (optional : Bool) :
    Asks (credential.map fun c => .lookup c.token)
      (Resolution.resolve backend credential optional) := by
  cases credential with
  | none => exact (Consultation.asks_log _).bind fun _ => Consultation.asks_pure _
  | some credential =>
    refine (Consultation.asks_askIdentity _).bind fun r => ?_
    cases r with
    | error failure => exact (Consultation.asks_log _).bind fun _ => Consultation.asks_pure _
    | ok found => exact (Consultation.asks_log _).bind fun _ => Consultation.asks_pure _

/-- Telling of a core's failure asks nothing. -/
theorem asks_tellCoreFailure (failure : CoreFailure) : Asks none (tellCoreFailure failure) :=
  (Consultation.asks_log? _).bind fun _ => Consultation.asks_pure _

private theorem asks_tellRefusal (reason : RefusalReason) : Asks none (tellRefusal reason) :=
  (Consultation.asks_log _).bind fun _ => Consultation.asks_pure _

/-- The identity of a credential is found by asking whose token it is. -/
theorem asks_resolved (desk : Desk) (headers : Headers) (optional : Bool) :
    Asks (question desk headers) (resolved desk headers optional) := by
  refine (asks_resolve desk.backend _ optional).bind fun r => ?_
  rcases r with failure | resolution
  · exact (asks_tellCoreFailure failure).bind fun _ => Consultation.asks_pure _
  · cases resolution with
    | resolved u => exact Consultation.asks_pure _
    | absent => exact Consultation.asks_pure _
    | failed reason => exact (asks_tellRefusal reason).bind fun _ => Consultation.asks_pure _

/-- Where an identity is required, only that of the request's credential is asked for. -/
theorem asks_required (desk : Desk) (headers : Headers) :
    Asks (question desk headers) (required desk none headers) :=
  (asks_resolved desk headers false).bind fun _ => Consultation.asks_pure _

/-- A required identity that was resolved before is not asked for again. -/
theorem asks_required_again (desk : Desk) (u : Identity) (headers : Headers) :
    Asks none (required desk (some u) headers) :=
  (Consultation.asks_pure _).bind fun _ => Consultation.asks_pure _

/-- Where an identity is welcome, the same is asked for as where one is required. -/
theorem asks_welcome (desk : Desk) (headers : Headers) :
    Asks (question desk headers) (welcome desk none headers) :=
  asks_resolved desk headers true

/-- The guard asks for the same as a route that requires an identity. -/
theorem asks_guarded (desk : Desk) (headers : Headers) :
    Asks (question desk headers) (guarded desk headers) := by
  refine (asks_resolved desk headers false).bind fun r => ?_
  cases demanded r with
  | error failure => exact Consultation.asks_pure _
  | ok u => exact (Consultation.asks_log _).bind fun _ => Consultation.asks_pure _

/-! ## Results -/

private theorem result_resolve (backend : String) (credential : Option Credential)
    (optional : Bool) :
    (Resolution.resolve backend credential optional).result answers =
      match credential with
      | none => .ok (.ofMissing optional .missingCredential)
      | some credential => (answers.lookup credential.token).map (.ofLookup optional) := by
  cases credential with
  | none => rfl
  | some credential =>
    simp only [Resolution.resolve, Consultation.result_bind, Consultation.result_askIdentity]
    cases answers.lookup credential.token <;> rfl

/-- The identity of a credential is what is found, as long as it is welcome or required. -/
theorem result_resolved (desk : Desk) (headers : Headers) (optional : Bool) (answers : Answers) :
    (resolved desk headers optional).result answers =
      let found := finding answers.lookup (Credential.extract headers desk.cookieName)
      if optional then found.welcome else found.required.map some := by
  simp only [resolved, Consultation.result_bind, result_resolve]
  cases Credential.extract headers desk.cookieName with
  | none => cases optional <;> rfl
  | some credential =>
    simp only [finding]
    rcases answers.lookup credential.token with failure | found
    · cases optional <;> cases failure <;> rfl
    · cases found <;> cases optional <;> rfl

/-- Where an identity is welcome, the result is what is found. -/
theorem result_welcome (desk : Desk) (headers : Headers) (answers : Answers) :
    (welcome desk none headers).result answers =
      (finding answers.lookup (Credential.extract headers desk.cookieName)).welcome :=
  result_resolved desk headers true answers

/-- Something required that is found is what was demanded. -/
theorem demanded_map_some (found : Except RequestFailure Identity) :
    demanded (found.map some) = found := by
  cases found <;> rfl

/-- Where an identity is required, the result is what is found. -/
theorem result_required (desk : Desk) (headers : Headers) (answers : Answers) :
    (required desk none headers).result answers =
      (finding answers.lookup (Credential.extract headers desk.cookieName)).required := by
  simp only [required, identity?, Consultation.result_bind, Consultation.result_pure,
    result_resolved, Bool.false_eq_true, if_false, demanded_map_some]

/-- The guard lets in whom it finds. -/
theorem result_guarded (desk : Desk) (headers : Headers) (answers : Answers) :
    (guarded desk headers).result answers =
      (finding answers.lookup (Credential.extract headers desk.cookieName)).required := by
  simp only [guarded, Consultation.result_bind, result_resolved, Bool.false_eq_true, if_false,
    demanded_map_some]
  cases (finding answers.lookup (Credential.extract headers desk.cookieName)).required <;> rfl

end

/-! ## Agreement of the three ways -/

/-- What a request is told of a credential that is nobody's, or of having none. -/
def refusalMessage (credential : Option Credential) : String :=
  if credential.isSome then "invalid or expired token" else "no token provided"

/-- The three ways to an identity agree about a credential, as a core answers. -/
structure PathsAgree {σ : Type} (credential : Option Credential) (lookup : String → LookupResult)
    (required : Run (Except RequestFailure Identity) σ)
    (welcome : Run (Except RequestFailure (Option Identity)) σ)
    (guarded : Run (Except RequestFailure Identity) σ) : Prop where
  /-- Each asks once whose token the credential is, and nothing without a credential. -/
  calls : let asked := (credential.map fun c => Call.lookup c.token).toList
    required.calls = asked ∧ welcome.calls = asked ∧ guarded.calls = asked
  /-- All find the same user, who is the one that the core knows by the credential. -/
  somebody : ∀ u,
    (required.outcome = some (.ok u) ↔ welcome.outcome = some (.ok (some u))) ∧
      (guarded.outcome = some (.ok u) ↔ welcome.outcome = some (.ok (some u))) ∧
      (welcome.outcome = some (.ok (some u)) ↔
        ∃ c, credential = some c ∧ lookup c.token = .ok (some u))
  /-- Where nobody has to be there, nobody is found exactly if the others refuse the request
  for what its credential is. Then it is missing, or nobody's. -/
  nobody : let refused := RequestFailure.unauthorized (refusalMessage credential)
    (required.outcome = some (.error refused) ↔ welcome.outcome = some (.ok none)) ∧
      (guarded.outcome = some (.error refused) ↔ welcome.outcome = some (.ok none)) ∧
      (welcome.outcome = some (.ok none) ↔
        ∀ c, credential = some c → lookup c.token = .ok none)
  /-- They refuse it as unauthorized for no other reason, unless the core says so of the token. -/
  unauthorized : (∀ c, credential = some c → lookup c.token ≠ .error .invalidCredentials) →
    ∀ failure : RequestFailure, failure.status = 401 →
      required.outcome = some (.error failure) ∨ guarded.outcome = some (.error failure) →
        welcome.outcome = some (.ok none)
  /-- All tell a failure of the core alike. -/
  trouble : ∀ c failure, credential = some c → lookup c.token = .error failure →
    required.outcome = some (.error (.ofCore failure)) ∧
      welcome.outcome = some (.error (.ofCore failure)) ∧
      guarded.outcome = some (.error (.ofCore failure))

section

variable {lookup : String → LookupResult} {credential : Option Credential} {found : Finding}
  {u : Identity} {reason : RefusalReason} {failure : CoreFailure}

/-- Who is found where an identity is required. -/
theorem Finding.required_eq_ok_iff : found.required = .ok u ↔ found = .somebody u := by
  cases found <;> simp [required]

/-- Who is found where an identity is welcome. -/
theorem Finding.welcome_eq_ok_some_iff : found.welcome = .ok (some u) ↔ found = .somebody u := by
  cases found <;> simp [welcome]

/-- When nobody is found where an identity is welcome. -/
theorem Finding.welcome_eq_ok_none_iff :
    found.welcome = .ok none ↔ ∃ reason, found = .nobody reason := by
  cases found <;> simp [welcome]

/-- Why nobody is found tells whether there is a credential. -/
theorem message_of_finding (hfound : finding lookup credential = .nobody reason) :
    reason.message = refusalMessage credential := by
  cases credential with
  | none =>
    cases hfound
    rfl
  | some credential =>
    simp only [finding] at hfound
    split at hfound
    · cases hfound
    · cases hfound
      rfl
    · cases hfound

/-- A user is found exactly if the core knows it by the credential. -/
theorem finding_eq_somebody_iff : finding lookup credential = .somebody u ↔
    ∃ c, credential = some c ∧ lookup c.token = .ok (some u) := by
  cases credential with
  | none => simp [finding]
  | some credential =>
    rcases hsaid : lookup credential.token with failure | _ | u' <;> simp [finding, hsaid]

/-- Nobody is found exactly if the core knows nobody by the credential. -/
theorem exists_finding_eq_nobody_iff : (∃ reason, finding lookup credential = .nobody reason) ↔
    ∀ c, credential = some c → lookup c.token = .ok none := by
  cases credential with
  | none => simp [finding]
  | some credential =>
    rcases hsaid : lookup credential.token with failure | _ | u <;> simp [finding, hsaid]

/-- A core's failure is found exactly if the core fails. -/
theorem finding_eq_trouble_iff : finding lookup credential = .trouble failure ↔
    ∃ c, credential = some c ∧ lookup c.token = .error failure := by
  cases credential with
  | none => simp [finding]
  | some credential =>
    rcases hsaid : lookup credential.token with failure' | _ | u <;> simp [finding, hsaid]

/-- A core's failure is never told like a refused credential. -/
theorem ofCore_ne_unauthorized (failure : CoreFailure) (credential : Option Credential) :
    RequestFailure.ofCore failure ≠ .unauthorized (refusalMessage credential) := by
  cases failure <;> cases credential <;>
    simp [RequestFailure.ofCore, RequestFailure.ofErrors, refusalMessage]

/-- Only one failure of a core is told as unauthorized. -/
theorem status_ofCore_eq_iff :
    (RequestFailure.ofCore failure).status = 401 ↔ failure = .invalidCredentials := by
  cases failure <;> simp [RequestFailure.ofCore, RequestFailure.ofErrors, RequestFailure.status]

/-- A request is refused for what its credential is exactly if nobody is found. -/
theorem required_eq_unauthorized_iff :
    (finding lookup credential).required = .error (.unauthorized (refusalMessage credential)) ↔
      (finding lookup credential).welcome = .ok none := by
  rw [Finding.welcome_eq_ok_none_iff]
  cases hfound : finding lookup credential with
  | somebody u => simp [Finding.required]
  | nobody reason =>
    simp [Finding.required, RequestFailure.ofRefusal, message_of_finding hfound]
  | trouble failure => simp [Finding.required, ofCore_ne_unauthorized]

/-- Nobody is found by a request that is refused as unauthorized, unless the core says so of the
token. -/
theorem welcome_eq_ok_none_of_unauthorized {refused : RequestFailure}
    (hother : ∀ c, credential = some c → lookup c.token ≠ .error .invalidCredentials)
    (hstatus : refused.status = 401)
    (hrefused : (finding lookup credential).required = .error refused) :
    (finding lookup credential).welcome = .ok none := by
  cases hfound : finding lookup credential with
  | somebody u =>
    rw [hfound] at hrefused
    cases hrefused
  | nobody reason => rfl
  | trouble failure =>
    rw [hfound] at hrefused
    cases hrefused
    obtain ⟨c, hcredential, hsaid⟩ := finding_eq_trouble_iff.mp hfound
    rw [status_ofCore_eq_iff.mp hstatus] at hsaid
    exact absurd hsaid (hother c hcredential)

end

section

variable {σ : Type} {core : Core σ} {m₁ m₂ m₃ : Moment} {s₁ s₂ s₃ : σ}

/-- The three ways agree, if the core says the same whenever it is asked. -/
theorem paths_agree (desk : Desk) (headers : Headers)
    (hsecond : (core.answers m₂ s₂).lookup = (core.answers m₁ s₁).lookup)
    (hthird : (core.answers m₃ s₃).lookup = (core.answers m₁ s₁).lookup) :
    PathsAgree (Credential.extract headers desk.cookieName) (core.answers m₁ s₁).lookup
      ((required desk none headers).run core m₁ none 0 s₁)
      ((welcome desk none headers).run core m₂ none 0 s₂)
      ((guarded desk headers).run core m₃ none 0 s₃) := by
  rw [(asks_required desk headers).run_unlimited, (asks_welcome desk headers).run_unlimited,
    (asks_guarded desk headers).run_unlimited, result_required, result_welcome, result_guarded,
    hsecond, hthird]
  -- every way comes to what is found, so only readings of one finding are left to compare
  constructor
  case calls => exact ⟨rfl, rfl, rfl⟩
  case somebody =>
    intro u
    simp only [Option.some.injEq, Finding.required_eq_ok_iff, Finding.welcome_eq_ok_some_iff,
      finding_eq_somebody_iff, and_self]
  case nobody =>
    simp only [Option.some.injEq, required_eq_unauthorized_iff, Finding.welcome_eq_ok_none_iff,
      exists_finding_eq_nobody_iff, and_self]
  case unauthorized =>
    intro hother refused hstatus hrefused
    simp only [Option.some.injEq, or_self] at hrefused ⊢
    exact welcome_eq_ok_none_of_unauthorized hother hstatus hrefused
  case trouble =>
    intro c failure hcredential hsaid
    rw [finding_eq_trouble_iff.mpr ⟨c, hcredential, hsaid⟩]
    exact ⟨rfl, rfl, rfl⟩

end

end IdentityGateway.Access
