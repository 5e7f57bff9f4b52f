import IdentityGateway.Consultation

/-!
# Resolution

The decision whose request it is, by one look-up of its credential. A failing core is
never taken for an absent identity.
-/

namespace IdentityGateway

/-- Whose request it is, as far as its credential tells. -/
inductive Resolution where
  | resolved (identity : Identity)
  /-- Nobody's; only where nobody is required. -/
  | absent
  | failed (reason : RefusalReason)
  deriving DecidableEq, Repr

namespace Resolution

/-- A credential without an identity, which is refused unless none is required. -/
def ofMissing (optional : Bool) (reason : RefusalReason) : Resolution :=
  if optional then .absent else .failed reason

/-- What the log says a resolution came to. -/
def label : Resolution → ResolutionLabel
  | .resolved _ => .resolved
  | .absent => .absent
  | .failed _ => .failed

/-- The identity, its absence, or why there is none. -/
def identity : Resolution → Except RefusalReason (Option Identity)
  | .resolved u => .ok (some u)
  | .absent => .ok none
  | .failed reason => .error reason

/-- The resolution that the answer to a look-up gives. -/
def ofLookup (optional : Bool) : Option Identity → Resolution
  | some u => .resolved u
  | none => ofMissing optional .invalidCredential

/-- Resolves a credential with the core called `backend`. -/
def resolve (backend : String) (credential : Option Credential) (optional : Bool) :
    Consultation (Except CoreFailure Resolution) :=
  match credential with
  | none => do
    let resolution := ofMissing optional .missingCredential
    .log (.credentialMissing optional resolution.label)
    return .ok resolution
  | some credential => do
    match ← .askIdentity credential.token with
    | .error failure =>
      .log (.lookupFailed backend failure)
      return .error failure
    | .ok found =>
      let resolution := ofLookup optional found
      .log (.identityResolution backend credential.source optional resolution.label)
      return .ok resolution

/-- The resolver of a core in words. -/
def resolverText (backend : String) : String :=
  "IdentityResolver \x7b backend: " ++ Text.quoted backend ++ " \x7d"

end Resolution

end IdentityGateway
