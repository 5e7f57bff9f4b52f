import IdentityGateway.Proofs.Memory.Refresh

/-!
# Refusals of a core in memory

A request that is refused leaves the store as it was. A refresh takes its tokens from the table
before it looks for their owner, so this rests on the owner being there: every token in the
table of a store that calls led to names a user.
-/

namespace IdentityGateway.Memory

variable {policy : Policy} {moment : Moment} {store : Store} {request : GrantRequest}
  {failure : CoreFailure} {token : String} {issued : IssuedToken} {past : List Entry}

/-- A request that is refused on a sound store leaves it alone. -/
theorem Store.Sound.grant_of_error (hsound : store.Sound)
    (hrefused : (grant policy moment request store).1 = .error failure) :
    (grant policy moment request store).2 = store := by
  rcases grant_cases hsound moment request with ⟨failure', hresult⟩ | ⟨user, before, _, hresult⟩
  · rw [hresult]
  · rw [hresult] at hrefused
    cases hrefused

/-- Once a token of a sound store was taken, its owner is still there. -/
theorem Store.Sound.owner_of_refreshable (hsound : store.Sound)
    (hfound : store.refreshable policy moment.now token = some issued) :
    ∃ user, (store.spend token issued).users.get? issued.userId = some user := by
  rw [users_spend]
  exact hsound.owned (refreshable_eq_some_iff.mp hfound).1

/-- **Refusals.** After any calls of a fresh core, a login, a registration or a refresh that is
refused leaves users, email addresses and tokens as they were. Every token in the table names a
user, so a refresh is refused before it takes any token, or not at all. -/
theorem refusal_leaves_store (h : (core policy).History .empty past store) :
    (∀ moment request failure,
      ((core policy).grant moment request store).1.result = .error failure →
        ((core policy).grant moment request store).2 = store) ∧
      (∀ token issued, store.tokens.get? token = some issued →
        ∃ user, store.users.get? issued.userId = some user) ∧
      ∀ moment token issued, store.refreshable policy moment.now token = some issued →
        ∃ user, (store.spend token issued).users.get? issued.userId = some user ∧
          ((core policy).grant moment (.refresh token) store).1.result =
            .ok (newGrant policy moment user) := by
  have hsound := (course_of_history h).sound
  refine ⟨?_, ?_, ?_⟩
  · intro moment request failure hrefused
    exact hsound.grant_of_error hrefused
  · intro token issued hget
    exact hsound.owned hget
  · intro moment token issued hfound
    obtain ⟨user, howner⟩ := hsound.owner_of_refreshable hfound
    exact ⟨user, howner, exchange_of_refreshable hfound (by rwa [users_spend] at howner)⟩

/-- A second refresh with the first token of the sample run, a second registration with its
email address, and a login with a wrong password. -/
def refusedRequests : List GrantRequest := [
  .refresh "b", .register ⟨"ada@x.org ", "hidden", none⟩, .login "ada@x.org" "hidden"]

/-- After the sample run these requests are refused and change nothing, and a refresh with the
second token is not refused. -/
theorem refusal_sampleRun :
    (∀ request ∈ refusedRequests,
      ((core samplePolicy).grant (sampleMoment 3) request sampleRun.2).1.result.toOption = none ∧
        ((core samplePolicy).grant (sampleMoment 3) request sampleRun.2).2 = sampleRun.2) ∧
      ∃ user, ((core samplePolicy).grant (sampleMoment 3) (.refresh "bb") sampleRun.2).1.result =
        .ok (newGrant samplePolicy (sampleMoment 3) user) := by
  obtain ⟨hleaves, _, htakes⟩ :=
    refusal_leaves_store ((core samplePolicy).history_run .empty sampleCalls)
  constructor
  · intro request hrequest
    have hall : ∀ request ∈ refusedRequests,
        ((core samplePolicy).grant (sampleMoment 3) request sampleRun.2).1.result.toOption =
          none := by decide +kernel
    have hnone := hall request hrequest
    refine ⟨hnone, ?_⟩
    cases hresult : ((core samplePolicy).grant (sampleMoment 3) request sampleRun.2).1.result with
    | error failure => exact hleaves _ _ failure hresult
    | ok g =>
      rw [hresult] at hnone
      cases hnone
  · obtain ⟨user, _, hresult⟩ := htakes (sampleMoment 3) "bb"
      ⟨.text "u", .refresh, ⟨2592002, 0⟩, some "aa"⟩ (by decide)
    exact ⟨user, hresult⟩

end IdentityGateway.Memory
