import IdentityGateway.Proofs.Memory.Refresh

/-!
# Grants that endure

The tokens of a grant go on standing for its user as long as no refresh takes them and their end
does not come. Nothing is assumed of the clock: an end that came at a later issue came for good.
-/

namespace IdentityGateway.Memory

/-- The end of a lifetime that began with an issue has not come by now, and had not at any later
issue. -/
structure Endures (lifetime : Nat) (later : List Entry) (e : Entry) (now : Timestamp) : Prop where
  now : now.before (e.moment.issuedAt.addSeconds lifetime) = true
  since : ∀ x ∈ later, x.grant?.isSome →
    x.moment.issuedAt.before (e.moment.issuedAt.addSeconds lifetime) = true

/-- No later call refreshes a grant. -/
def Unspent (later : List Entry) (g : Grant) : Prop :=
  ∀ x ∈ later, ∀ used, g.refreshToken? = some used → x.spends used = false

section

variable {policy : Policy} {moment : Moment} {store : Store} {token : String}
  {issued : IssuedToken} {past later : List Entry} {e : Entry} {g : Grant} {now : Timestamp}

/-- A token of a grant that is not refreshed stands as long as its lifetime endures. -/
theorem Endures.standing {lifetime : Nat} (h : Endures lifetime later e now)
    (hunspent : Unspent later g) (hgranted : Granted past later e g)
    (hmem : (token, issued) ∈ newTokens policy e.moment g.user)
    (hend : issued.expiresAt = e.moment.issuedAt.addSeconds lifetime) :
    Standing policy past token issued := by
  refine ⟨later, e, g, hgranted, hmem, fun x hx => ⟨hunspent x hx _, ?_⟩⟩
  intro hsome
  rw [IssuedToken.isLive, hend]
  exact h.since x hx hsome

/-- As long as it endures, the access token of a grant stands for the user of the grant. -/
theorem Course.identityOf_of_endures (h : Course policy past store) (hfresh : Fresh past)
    (hgranted : Granted past later e g) (hunspent : Unspent later g)
    (hendures : Endures policy.identityLifetime later e now) :
    store.identityOf now g.accessToken = some g.user := by
  obtain ⟨issued, hmem, hkind, hend⟩ := exists_access_mem_newTokens policy e.moment g.user
  rw [← h.grant_eq hgranted] at hmem
  have hstanding := hendures.standing hunspent hgranted hmem hend
  have hlive : issued.isLive now = true := by
    rw [IssuedToken.isLive, hend]
    exact hendures.now
  exact Memory.identityOf_eq_some_iff.mpr ⟨issued, (h.tokens_get?_iff hfresh.tokens).mpr hstanding,
    hkind, hlive, (h.owner_eq_some_iff hfresh.ids hgranted hmem).mpr rfl⟩

/-- As long as it endures, the refresh token of a grant is exchanged for a new grant to its
user. -/
theorem Course.exchange_of_endures (h : Course policy past store) (hfresh : Fresh past)
    (hgranted : Granted past later e g) (hunspent : Unspent later g)
    (hrefresh : g.refreshToken? = some token)
    (hendures : Endures policy.renewalLifetime later e moment.now) :
    (exchange policy moment token store).1 = .ok (newGrant policy moment g.user) := by
  rw [h.grant_eq hgranted] at hrefresh
  obtain ⟨issued, hmem, hkind, hend⟩ := exists_refresh_mem_newTokens hrefresh
  have hstanding := hendures.standing hunspent hgranted hmem hend
  have hlive : issued.isLive moment.now = true := by
    rw [IssuedToken.isLive, hend]
    exact hendures.now
  have hfound : store.refreshable policy moment.now token = some issued :=
    refreshable_eq_some_iff.mpr
      ⟨(h.tokens_get?_iff hfresh.tokens).mpr hstanding, hkind, hlive⟩
  exact exchange_of_refreshable hfound ((h.owner_eq_some_iff hfresh.ids hgranted hmem).mpr rfl)

/-- In pair mode no refresh token stands for anybody. -/
theorem Course.identityOf_refreshToken (h : Course policy past store) (hfresh : Fresh past)
    (hmode : policy.mode = .tokenPair) (hgranted : Granted past later e g)
    (hrefresh : g.refreshToken? = some token) : store.identityOf now token = none := by
  rw [Option.eq_none_iff_forall_ne_some]
  intro user hfound
  -- the token would be the access token of some grant of the history, not of `g` perhaps
  obtain ⟨issued, hget, hkind, -, -⟩ := Memory.identityOf_eq_some_iff.mp hfound
  obtain ⟨later', e', g', hgranted', hmem', -⟩ := (h.tokens_get?_iff hfresh.tokens).mp hget
  have haccess : token = g'.accessToken := by
    rw [h.grant_eq hgranted']
    exact (access_of_mem_newTokens hmem' hkind).1
  exact h.access_not_refresh hfresh.tokens hmode hgranted' hgranted hrefresh haccess.symm

/-- In session mode the one token of a grant is both its access token and its refresh token. -/
theorem refreshToken?_session {user : Identity} (hmode : policy.mode = .session) :
    (newGrant policy moment user).refreshToken? =
      some (newGrant policy moment user).accessToken := by
  simp only [newGrant, hmode, Grant.refreshToken?, Grant.accessToken]

/-- Every grant comes with a refresh token. -/
theorem exists_refreshToken? (policy : Policy) (moment : Moment) (user : Identity) :
    ∃ refresh, (newGrant policy moment user).refreshToken? = some refresh := by
  unfold newGrant
  cases policy.mode with
  | session => exact ⟨_, rfl⟩
  | tokenPair => exact ⟨_, rfl⟩

end

end IdentityGateway.Memory
