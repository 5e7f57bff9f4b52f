import IdentityGateway.Proofs.Memory.Lookup

/-!
# Refreshes of a core in memory

A refresh succeeds exactly if its token is the refresh token of a grant that has not come to
its end, and no refresh with it succeeded before. What became of the access token does not
matter.
-/

namespace IdentityGateway.Memory

/-- A token may be refreshed for a user at a time, as far as a history tells. -/
def Renews (policy : Policy) (past : List Entry) (now : Timestamp) (token : String)
    (user : Identity) : Prop :=
  ∃ e ∈ past, ∃ g, e.grant? = some g ∧ g.refreshToken? = some token ∧ g.user = user ∧
    now.before (e.moment.issuedAt.addSeconds policy.renewalLifetime) = true ∧
    ∀ x ∈ past, x.spends token = false

section

variable {policy : Policy} {moment : Moment} {store before : Store} {user : Identity}
  {request : GrantRequest} {token : String} {issued : IssuedToken} {past later later' : List Entry}
  {x e e' : Entry} {g g' : Grant} {now : Timestamp}

/-- A call of a history that got a grant handed it out there. -/
theorem granted_of_mem (he : e ∈ past) (hgrant : e.grant? = some g) :
    ∃ later, Granted past later e g := by
  obtain ⟨later, earlier, hsplit⟩ := List.append_of_mem he
  exact ⟨later, earlier, hsplit, hgrant⟩

/-- A token that is spent stood before. -/
theorem Entitles.standing_of_spends (h : Entitles policy moment store request user before)
    (hcourse : Course policy past store) (hfresh : (drawnTokens past).Nodup)
    (hspends : Entry.spends ⟨moment, .grant request, .grant (.ok g)⟩ token = true) :
    ∃ issued, Standing policy past token issued ∧ issued.kind = policy.refreshKind := by
  obtain rfl := Entry.spends_granted_iff.mp hspends
  cases h with
  | refresh hfound _ =>
    obtain ⟨hget, hkind, _⟩ := refreshable_eq_some_iff.mp hfound
    exact ⟨_, (hcourse.tokens_get?_iff hfresh).mp hget, hkind⟩

/-- Only tokens of earlier grants stand in the table, so that fresh ones never meet them. -/
theorem Course.mem_drawnTokens (h : Course policy past store)
    (hstanding : Standing policy past token issued) : token ∈ drawnTokens past := by
  obtain ⟨_, e, g, hgranted, hmem, _⟩ := hstanding
  exact hgranted.mem_drawnTokens (h.mem_tokens hgranted hmem)

/-- A call can spend only what an earlier grant handed out. -/
theorem Course.mem_drawnTokens_of_spends (h : Course policy past store)
    (hfresh : (drawnTokens past).Nodup) (hx : x ∈ past) (hspends : x.spends token = true) :
    token ∈ drawnTokens past := by
  induction h with
  | nil => cases hx
  | @idle past _ y _ hidle ih =>
    rcases List.mem_cons.mp hx with rfl | hx
    · rw [Entry.spends_eq_false hidle] at hspends
      cases hspends
    · exact List.mem_append_right _ (ih (nodup_drawnTokens_cons hfresh).1 hx)
  | issued hpast hentitles ih =>
    have hfreshPast := (nodup_drawnTokens_cons hfresh).1
    apply List.mem_append_right
    rcases List.mem_cons.mp hx with rfl | hx
    · obtain ⟨_, hstanding, _⟩ := hentitles.standing_of_spends hpast hfreshPast hspends
      exact hpast.mem_drawnTokens hstanding
    · exact ih hfreshPast hx

/-- A refresh token is spent after it was handed out. -/
theorem Course.mem_later_of_spends (h : Course policy past store)
    (hfresh : (drawnTokens past).Nodup) (hgranted : Granted past later e g)
    (hrefresh : g.refreshToken? = some token) (hx : x ∈ past)
    (hspends : x.spends token = true) : x ∈ later := by
  induction h generalizing later with
  | nil => cases hx
  | idle _ hidle ih =>
    obtain ⟨older, rfl, hold⟩ := (granted_cons_of_none hidle).mp hgranted
    rcases List.mem_cons.mp hx with rfl | hx
    · exact List.mem_cons_self
    · exact List.mem_cons_of_mem _ (ih (nodup_drawnTokens_cons hfresh).1 hold hx)
  | issued hpast hentitles ih =>
    obtain ⟨hfreshPast, _, hnew⟩ := nodup_drawnTokens_cons hfresh
    rcases granted_cons_iff.mp hgranted with ⟨_, _, hgrant⟩ | ⟨older, rfl, hold⟩
    · -- the token is new, so nothing that spends it came before
      have hnot := hnew token (by
        rw [Entry.tokens_eq hgrant]
        exact Grant.mem_tokens_of_refreshToken? hrefresh)
      rcases List.mem_cons.mp hx with rfl | hx
      · obtain ⟨_, hstanding, _⟩ := hentitles.standing_of_spends hpast hfreshPast hspends
        exact absurd (hpast.mem_drawnTokens hstanding) hnot
      · exact absurd (hpast.mem_drawnTokens_of_spends hfreshPast hx hspends) hnot
    · rcases List.mem_cons.mp hx with rfl | hx
      · exact List.mem_cons_self
      · exact List.mem_cons_of_mem _ (ih hfreshPast hold hx)

/-- A refresh token that stands was never spent. -/
theorem Course.unspent_of_standing (h : Course policy past store)
    (hfresh : (drawnTokens past).Nodup) (hstanding : Standing policy past token issued)
    (hkind : issued.kind = policy.refreshKind) (hx : x ∈ past) : x.spends token = false := by
  obtain ⟨later, e, g, hgranted, hmem, hspares⟩ := hstanding
  have hrefresh := h.refreshToken?_eq hgranted hmem hkind
  cases hspends : x.spends token with
  | false => rfl
  | true =>
    have hlater := h.mem_later_of_spends hfresh hgranted hrefresh hx hspends
    rw [(hspares x hlater).unspent hrefresh] at hspends
    cases hspends

/-- No two refreshes of one token succeed. -/
theorem Course.spends_once (h : Course policy past store) (hfresh : (drawnTokens past).Nodup) :
    past.Pairwise fun x earlier => ∀ used, x.spends used = true → earlier.spends used = false := by
  induction h with
  | nil => exact List.Pairwise.nil
  | idle _ hidle ih =>
    refine List.Pairwise.cons ?_ (ih (nodup_drawnTokens_cons hfresh).1)
    intro y _ used hspends
    rw [Entry.spends_eq_false hidle] at hspends
    cases hspends
  | issued hpast hentitles ih =>
    have hfreshPast := (nodup_drawnTokens_cons hfresh).1
    refine List.Pairwise.cons ?_ (ih hfreshPast)
    intro y hy used hspends
    obtain ⟨_, hstanding, hkind⟩ := hentitles.standing_of_spends hpast hfreshPast hspends
    exact hpast.unspent_of_standing hfreshPast hstanding hkind hy

/-- After a course, the tokens that a refresh may take are those that the history tells. -/
theorem Course.refreshable_iff (h : Course policy past store) (hfresh : Fresh past)
    (hclock : NotAhead past now) :
    (∃ issued, store.refreshable policy now token = some issued ∧
      store.users.get? issued.userId = some user) ↔ Renews policy past now token user := by
  constructor
  · rintro ⟨issued, hfound, howner⟩
    obtain ⟨hget, hkind, hlive⟩ := refreshable_eq_some_iff.mp hfound
    have hstanding := (h.tokens_get?_iff hfresh.tokens).mp hget
    have hunspent := fun x (hx : x ∈ past) =>
      h.unspent_of_standing hfresh.tokens hstanding hkind hx
    obtain ⟨later, e, g, hgranted, hmem, _⟩ := hstanding
    have hend := (refresh_of_mem_newTokens hmem hkind).2
    refine ⟨e, hgranted.mem, g, hgranted.grant?_eq, h.refreshToken?_eq hgranted hmem hkind, ?_, ?_,
      hunspent⟩
    · exact (h.owner_eq_some_iff hfresh.ids hgranted hmem).mp howner
    · rwa [IssuedToken.isLive, hend] at hlive
  · rintro ⟨e, he, g, hgrant, hrefresh, huser, hnow, hunspent⟩
    obtain ⟨later, hgranted⟩ := granted_of_mem he hgrant
    rw [h.grant_eq hgranted] at hrefresh
    obtain ⟨issued, hmem, hkind, hend⟩ := exists_refresh_mem_newTokens hrefresh
    have hlive : issued.isLive now = true := by rwa [IssuedToken.isLive, hend]
    have hstanding : Standing policy past token issued := by
      refine ⟨later, e, g, hgranted, hmem, fun x hx => ⟨?_, ?_⟩⟩
      · intro used hused
        rw [h.grant_eq hgranted, hrefresh, Option.some.injEq] at hused
        exact hused ▸ hunspent x (hgranted.mem_of_later hx)
      · exact live_of_notAhead hclock hlive (hgranted.mem_of_later hx)
    exact ⟨issued, refreshable_eq_some_iff.mpr
        ⟨(h.tokens_get?_iff hfresh.tokens).mpr hstanding, hkind, hlive⟩,
      (h.owner_eq_some_iff hfresh.ids hgranted hmem).mpr huser⟩

/-- In pair mode no token is both the access token and the refresh token of grants. -/
theorem Course.access_not_refresh (h : Course policy past store)
    (hfresh : (drawnTokens past).Nodup) (hmode : policy.mode = .tokenPair)
    (hgranted : Granted past later e g) (hgranted' : Granted past later' e' g')
    (hrefresh : g'.refreshToken? = some token) : g.accessToken ≠ token := by
  rintro rfl
  obtain ⟨_, _, rfl⟩ := hgranted.unique hfresh hgranted' g.accessToken_mem_tokens
    (Grant.mem_tokens_of_refreshToken? hrefresh)
  have hdistinct := hgranted.nodup_tokens hfresh
  rw [h.grant_eq hgranted] at hdistinct hrefresh
  simp only [newGrant, hmode, Grant.accessToken, Grant.refreshToken?, Option.some.injEq]
    at hrefresh
  simp [newGrant, hmode, Grant.tokens, hrefresh] at hdistinct

/-- A refresh that may take its token is answered with a new grant for the token's owner. -/
theorem exchange_of_refreshable (hfound : store.refreshable policy moment.now token = some issued)
    (howner : store.users.get? issued.userId = some user) :
    (exchange policy moment token store).1 = .ok (newGrant policy moment user) := by
  simp only [exchange, hfound, users_spend, howner, issue_fst]

/-- A refresh is refused if its token may not be taken or has no owner. -/
theorem exchange_of_not_refreshable
    (hnone : ∀ issued user, store.refreshable policy moment.now token = some issued →
      store.users.get? issued.userId ≠ some user) :
    (exchange policy moment token store).1 = .error .invalidCredentials := by
  cases hfound : store.refreshable policy moment.now token with
  | none => simp only [exchange, hfound]
  | some issued =>
    cases howner : store.users.get? issued.userId with
    | none => simp only [exchange, hfound, users_spend, howner]
    | some user => exact absurd howner (hnone issued user hfound)

/-- After a course, a refresh is answered with a new grant if its token may be refreshed. -/
theorem Course.exchange_of_renews (h : Course policy past store) (hfresh : Fresh past)
    (hclock : NotAhead past moment.now) (hrenews : Renews policy past moment.now token user) :
    (exchange policy moment token store).1 = .ok (newGrant policy moment user) := by
  obtain ⟨issued, hfound, howner⟩ := (h.refreshable_iff hfresh hclock).mpr hrenews
  exact exchange_of_refreshable hfound howner

/-- After a course, a refresh is refused if its token may not be refreshed. -/
theorem Course.exchange_of_not_renews (h : Course policy past store) (hfresh : Fresh past)
    (hclock : NotAhead past moment.now)
    (hnot : ∀ user, ¬ Renews policy past moment.now token user) :
    (exchange policy moment token store).1 = .error .invalidCredentials := by
  refine exchange_of_not_refreshable fun issued user hfound howner => hnot user ?_
  exact (h.refreshable_iff hfresh hclock).mp ⟨issued, hfound, howner⟩

/-- **Refreshes.** After any calls of a fresh core, a refresh at a time that no issue was ahead
of gives a new grant exactly if the token is the refresh token of a grant that has not come to
its end and that no refresh spent; the grant is for the user of the old one. Every other refresh
is refused, so no token is spent twice, and no access token of a pair is taken. A refresh does
not need the access token that came with its token. -/
theorem refresh_granted_iff_renews (h : (core policy).History .empty past store)
    (hfresh : Fresh past) (hclock : NotAhead past moment.now) (token : String) :
    let result := ((core policy).grant moment (.refresh token) store).1.result
    (∀ g, result = .ok g ↔
        ∃ user, Renews policy past moment.now token user ∧ g = newGrant policy moment user) ∧
      ((∀ user, ¬ Renews policy past moment.now token user) →
        result = .error .invalidCredentials) ∧
      (past.Pairwise fun x earlier =>
        ∀ used, x.spends used = true → earlier.spends used = false) ∧
      (policy.mode = .tokenPair → ∀ e ∈ past, ∀ g, e.grant? = some g → g.accessToken = token →
        result = .error .invalidCredentials) ∧
      ∀ e ∈ past, ∀ g, e.grant? = some g → g.refreshToken? = some token →
        moment.now.before (e.moment.issuedAt.addSeconds policy.renewalLifetime) = true →
        (∀ x ∈ past, x.spends token = false) → store.tokens.get? g.accessToken = none →
        result = .ok (newGrant policy moment g.user) := by
  have hcourse := course_of_history h
  have hrefused : (∀ user, ¬ Renews policy past moment.now token user) →
      (exchange policy moment token store).1 = .error .invalidCredentials :=
    hcourse.exchange_of_not_renews hfresh hclock
  refine ⟨?_, hrefused, hcourse.spends_once hfresh.tokens, ?_, ?_⟩
  · intro g
    constructor
    · intro hok
      by_cases hrenews : ∃ user, Renews policy past moment.now token user
      · obtain ⟨user, hrenews⟩ := hrenews
        have hgranted := hcourse.exchange_of_renews hfresh hclock hrenews
        exact ⟨user, hrenews, Except.ok.inj (hok.symm.trans hgranted)⟩
      · have hfailed := hrefused (not_exists.mp hrenews)
        cases hok.symm.trans hfailed
    · rintro ⟨user, hrenews, rfl⟩
      exact hcourse.exchange_of_renews hfresh hclock hrenews
  · intro hmode e he g hgrant haccess
    refine hrefused ?_
    rintro user ⟨e', he', g', hgrant', hrefresh, _⟩
    obtain ⟨_, hgranted⟩ := granted_of_mem he hgrant
    obtain ⟨_, hgranted'⟩ := granted_of_mem he' hgrant'
    exact hcourse.access_not_refresh hfresh.tokens hmode hgranted hgranted' hrefresh haccess
  · intro e he g hgrant hrefresh hnow hunspent _
    exact hcourse.exchange_of_renews hfresh hclock
      ⟨e, he, g, hgrant, hrefresh, rfl, hnow, hunspent⟩

end

/-! ## A late refresh -/

/-- Pairs whose access tokens are good for no time at all. -/
def instantPolicy : Policy where
  mode := .tokenPair
  requestedLifetime := 0
  scheme := ⟨[], fun _ password => .ok password.toList⟩

/-- Two users register one after the other. -/
def instantCalls : List (Moment × Call) := [
  (sampleMoment 2, .grant (.register ⟨"bob@x.org", "hidden", none⟩)),
  (sampleMoment 1, .grant (.register ⟨"Ada@x.org", "secret", none⟩))]

/-- The history of the two registrations, and the store that they lead to. -/
def instantRun : List Entry × Store :=
  (core instantPolicy).run .empty instantCalls

/-- The second registration drops the access token of the first, whose refresh token is still
taken. -/
theorem renews_instantRun :
    Fresh instantRun.1 ∧ NotAhead instantRun.1 (sampleMoment 3).now ∧
      instantRun.2.tokens.get? "a" = none ∧
      Renews instantPolicy instantRun.1 (sampleMoment 3).now "b" sampleUser := by
  have hhistory := (core instantPolicy).history_run .empty instantCalls
  have hfresh : Fresh instantRun.1 := ⟨by decide, by decide⟩
  have hclock : NotAhead instantRun.1 (sampleMoment 3).now := by
    unfold NotAhead
    decide
  refine ⟨hfresh, hclock, by decide, ?_⟩
  obtain ⟨hiff, _⟩ := refresh_granted_iff_renews hhistory hfresh hclock "b"
  obtain ⟨user, hrenews, hgrant⟩ :=
    (hiff (newGrant instantPolicy (sampleMoment 3) sampleUser)).mp (by rfl)
  have huser := congrArg Grant.user hgrant
  rw [user_newGrant, user_newGrant] at huser
  rwa [huser]

end IdentityGateway.Memory
