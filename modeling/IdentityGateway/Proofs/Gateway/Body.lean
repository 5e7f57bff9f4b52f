import IdentityGateway.Gateway.Body

/-!
# Accepted bodies

A body becomes a checked request exactly if it is declared as JSON, is within the limit, is read
as the record that is expected, and passes every check of the record.
-/

namespace IdentityGateway

/-- Errors with one more message are not empty. -/
theorem FieldErrors.isEmpty_add (errors : FieldErrors) (field message : String) :
    (errors.add field message).isEmpty = false := by
  rcases errors with ⟨_ | ⟨⟨name, messages⟩, rest⟩⟩
  · rfl
  · simp only [add, insert, isEmpty]
    split
    · rfl
    · split <;> rfl

/-- There is no error exactly if every check holds. -/
theorem Check.isEmpty_errors_iff (checks : List Check) :
    (Check.errors checks).isEmpty = true ↔ ∀ check ∈ checks, check.holds = true := by
  have hnone : (checks.filter fun c => !c.holds) = [] ↔ ∀ check ∈ checks, check.holds = true := by
    simp [List.filter_eq_nil_iff]
  rw [← hnone, Check.errors]
  -- messages are only added, so the last check that fails leaves one
  rcases List.eq_nil_or_concat (checks.filter fun c => !c.holds) with hnil | ⟨init, last, hlast⟩
  · rw [hnil]
    exact ⟨fun _ => rfl, fun _ => rfl⟩
  · rw [hlast, List.concat_eq_append, List.foldl_append, List.foldl_cons, List.foldl_nil,
      FieldErrors.isEmpty_add]
    simp

/-- A request of some kind is valid exactly if every check of the kind holds. -/
theorem RequestKind.validate_eq_ok_iff {α : Type} {kind : RequestKind α} {a b : α} :
    kind.validate a = .ok b ↔ a = b ∧ ∀ check ∈ kind.checks b, check.holds = true := by
  rw [← Check.isEmpty_errors_iff, RequestKind.validate]
  by_cases hempty : (Check.errors (kind.checks a)).isEmpty = true
  · rw [if_pos hempty]
    constructor
    · intro hok
      cases hok
      exact ⟨rfl, hempty⟩
    · rintro ⟨rfl, _⟩
      rfl
  · rw [if_neg hempty]
    constructor
    · intro hok
      cases hok
    · rintro ⟨rfl, hvalid⟩
      exact absurd hvalid hempty

namespace Gateway.Body

open Http (Request)

/-- The body of a request is read as a record of some kind, and is valid. -/
structure Accepts {α : Type} (kind : RequestKind α) (request : Request) (body : α) : Prop where
  /-- The body is declared as JSON. -/
  declared : isDeclaredAsJson request.headers = true
  /-- It is no longer than may be read. -/
  within : request.body.length ≤ readLimit request.headers
  /-- It is a record of the kind. -/
  decoded : kind.shape.ofBytes request.body = .ok body
  /-- Every check of the record holds. -/
  valid : ∀ check ∈ kind.checks body, check.holds = true

section

variable {α : Type} {kind : RequestKind α} {request : Request} {body : α}

/-- A body is read exactly if it is declared as JSON, is within the limit and is a record. -/
theorem read_eq_ok_iff : read kind request = .ok body ↔
    isDeclaredAsJson request.headers = true ∧ request.body.length ≤ readLimit request.headers ∧
      kind.shape.ofBytes request.body = .ok body := by
  unfold read
  cases hdeclared : isDeclaredAsJson request.headers with
  | false => simp
  | true =>
    simp only [Bool.not_true, Bool.false_eq_true, if_false, true_and]
    by_cases hlong : readLimit request.headers < request.body.length
    · simp [hlong, Nat.not_le.mpr hlong]
    · have hwithin : request.body.length ≤ readLimit request.headers := Nat.le_of_not_lt hlong
      cases kind.shape.ofBytes request.body <;> simp [hlong, hwithin]

/-- The checked requests are the accepted ones. -/
theorem checked_eq_ok_iff : checked kind request = .ok body ↔ Accepts kind request body := by
  constructor
  · intro hok
    unfold checked at hok
    cases hread : read kind request with
    | error refusal =>
      rw [hread] at hok
      cases hok
    | ok a =>
      rw [hread] at hok
      obtain ⟨rfl, hvalid⟩ := RequestKind.validate_eq_ok_iff.mp hok
      obtain ⟨hdeclared, hwithin, hdecoded⟩ := read_eq_ok_iff.mp hread
      exact ⟨hdeclared, hwithin, hdecoded, hvalid⟩
  · intro h
    have hread := read_eq_ok_iff.mpr ⟨h.declared, h.within, h.decoded⟩
    simp only [checked, hread]
    exact RequestKind.validate_eq_ok_iff.mpr ⟨rfl, h.valid⟩

/-- A body that is refused is an error of the request. -/
theorem status_of_checked {failure : RequestFailure}
    (hrefused : checked kind request = .error failure) : failure.status = 400 := by
  unfold checked at hrefused
  cases hread : read kind request with
  | error refusal =>
    rw [hread] at hrefused
    obtain rfl := Except.error.inj hrefused
    rfl
  | ok a =>
    rw [hread] at hrefused
    simp only [RequestKind.validate] at hrefused
    split at hrefused
    · cases hrefused
    · obtain rfl := Except.error.inj hrefused
      rfl

end

end Gateway.Body

end IdentityGateway
