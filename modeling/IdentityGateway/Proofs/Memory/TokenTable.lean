import IdentityGateway.Proofs.Memory.Course

/-!
# The token table of a core in memory

A token is in the table exactly if it was handed out, the grant that it came with was not
refreshed since, and it was still good at every later issue. No assumption is made about the
clock: if it goes back, a token that was dropped does not return.
-/

namespace IdentityGateway.Memory

/-- The lifetime of the tokens that look-ups take. -/
def Policy.identityLifetime (policy : Policy) : Nat :=
  match policy.mode with
  | .session => Grant.sessionLifetime
  | .tokenPair => policy.accessLifetime

/-- The lifetime of the tokens that a refresh takes. -/
def Policy.renewalLifetime (policy : Policy) : Nat :=
  match policy.mode with
  | .session => Grant.sessionLifetime
  | .tokenPair => refreshLifetime

/-- A call does not spend the grant that a token came with, and issues nothing after the
token's end. -/
structure Spares (g : Grant) (issued : IssuedToken) (x : Entry) : Prop where
  unspent : ∀ {token}, g.refreshToken? = some token → x.spends token = false
  live : x.grant?.isSome → issued.isLive x.moment.issuedAt = true

/-- A token was handed out, and every later call spared it. -/
def Standing (policy : Policy) (past : List Entry) (token : String) (issued : IssuedToken) :
    Prop :=
  ∃ later e g, Granted past later e g ∧ (token, issued) ∈ newTokens policy e.moment g.user ∧
    ∀ x ∈ later, Spares g issued x

section

variable {policy : Policy} {moment : Moment} {store before : Store} {request : GrantRequest}
  {user : Identity} {token t : String} {issued i : IssuedToken} {past later : List Entry}
  {x e : Entry} {g : Grant}

/-! ## The tokens of one grant -/

/-- A token that look-ups take is the access token of its grant. -/
theorem access_of_mem_newTokens (hmem : (t, i) ∈ newTokens policy moment user)
    (hkind : i.kind ≠ .refresh) : t = (newGrant policy moment user).accessToken ∧
      i.expiresAt = moment.issuedAt.addSeconds policy.identityLifetime := by
  unfold newTokens at hmem
  unfold newGrant Policy.identityLifetime
  cases hmode : policy.mode with
  | session =>
    simp only [hmode, List.mem_singleton, Prod.mk.injEq] at hmem
    obtain ⟨rfl, rfl⟩ := hmem
    exact ⟨rfl, rfl⟩
  | tokenPair =>
    simp only [hmode, List.mem_cons, Prod.mk.injEq, List.not_mem_nil, or_false] at hmem
    rcases hmem with ⟨rfl, rfl⟩ | ⟨rfl, rfl⟩
    · exact ⟨rfl, rfl⟩
    · exact absurd rfl hkind

/-- The access token of a grant is put into the table for look-ups. -/
theorem exists_access_mem_newTokens (policy : Policy) (moment : Moment) (user : Identity) : ∃ i,
    ((newGrant policy moment user).accessToken, i) ∈ newTokens policy moment user ∧
      i.kind ≠ .refresh ∧
      i.expiresAt = moment.issuedAt.addSeconds policy.identityLifetime := by
  unfold newTokens newGrant Policy.identityLifetime
  cases policy.mode with
  | session => exact ⟨_, List.mem_cons_self, TokenKind.noConfusion, rfl⟩
  | tokenPair => exact ⟨_, List.mem_cons_self, TokenKind.noConfusion, rfl⟩

/-- A token that a refresh takes is the refresh token of its grant. -/
theorem refresh_of_mem_newTokens (hmem : (t, i) ∈ newTokens policy moment user)
    (hkind : i.kind = policy.refreshKind) :
    (newGrant policy moment user).refreshToken? = some t ∧
      i.expiresAt = moment.issuedAt.addSeconds policy.renewalLifetime := by
  unfold newTokens at hmem
  unfold Policy.refreshKind at hkind
  unfold newGrant Policy.renewalLifetime
  cases hmode : policy.mode with
  | session =>
    simp only [hmode, List.mem_singleton, Prod.mk.injEq] at hmem
    obtain ⟨rfl, rfl⟩ := hmem
    exact ⟨rfl, rfl⟩
  | tokenPair =>
    simp only [hmode, List.mem_cons, Prod.mk.injEq, List.not_mem_nil, or_false] at hmem hkind
    rcases hmem with ⟨rfl, rfl⟩ | ⟨rfl, rfl⟩
    · cases hkind
    · exact ⟨rfl, rfl⟩

/-- The refresh token of a grant is put into the table for refreshes. -/
theorem exists_refresh_mem_newTokens
    (hrefresh : (newGrant policy moment user).refreshToken? = some t) :
    ∃ i, (t, i) ∈ newTokens policy moment user ∧ i.kind = policy.refreshKind ∧
      i.expiresAt = moment.issuedAt.addSeconds policy.renewalLifetime := by
  unfold newGrant at hrefresh
  unfold newTokens Policy.refreshKind Policy.renewalLifetime
  cases hmode : policy.mode with
  | session =>
    simp only [hmode, Grant.refreshToken?, Option.some.injEq] at hrefresh
    subst hrefresh
    exact ⟨_, List.mem_cons_self, rfl, rfl⟩
  | tokenPair =>
    simp only [hmode, Grant.refreshToken?, Option.some.injEq] at hrefresh
    subst hrefresh
    exact ⟨_, List.mem_cons_of_mem _ List.mem_cons_self, rfl, rfl⟩

/-- A refresh takes exactly the tokens of the grant that its token came with. -/
theorem mem_tokens_iff_of_refresh (hmem : (token, issued) ∈ newTokens policy moment user)
    (hkind : issued.kind = policy.refreshKind) :
    t ∈ (newGrant policy moment user).tokens ↔
      t = token ∨ issued.pairedAccess = some t := by
  unfold newTokens at hmem
  unfold Policy.refreshKind at hkind
  unfold newGrant
  cases hmode : policy.mode with
  | session =>
    simp only [hmode, List.mem_singleton, Prod.mk.injEq] at hmem
    obtain ⟨rfl, rfl⟩ := hmem
    simp [Grant.tokens]
  | tokenPair =>
    simp only [hmode, List.mem_cons, Prod.mk.injEq, List.not_mem_nil, or_false] at hmem hkind
    rcases hmem with ⟨rfl, rfl⟩ | ⟨rfl, rfl⟩
    · cases hkind
    · simp [Grant.tokens, or_comm, eq_comm]

/-! ## Standing tokens -/

/-- An idle call spares every token. -/
theorem spares_of_idle (hidle : x.grant? = none) : Spares g i x := by
  constructor
  · intro token _
    exact Entry.spends_eq_false hidle
  · intro hsome
    rw [hidle] at hsome
    cases hsome

/-- A token stands after a call if the call handed it out or spared it. -/
theorem standing_cons_iff : Standing policy (x :: past) t i ↔
    (∃ g, x.grant? = some g ∧ (t, i) ∈ newTokens policy x.moment g.user) ∨
      ∃ later e g, Granted past later e g ∧ (t, i) ∈ newTokens policy e.moment g.user ∧
        (∀ y ∈ later, Spares g i y) ∧ Spares g i x := by
  constructor
  · rintro ⟨later, e, g, hgranted, hmem, hspares⟩
    rcases granted_cons_iff.mp hgranted with ⟨_, rfl, hgrant⟩ | ⟨later, rfl, hold⟩
    · exact Or.inl ⟨g, hgrant, hmem⟩
    · rw [List.forall_mem_cons] at hspares
      exact Or.inr ⟨later, e, g, hold, hmem, hspares.2, hspares.1⟩
  · rintro (⟨g, hgrant, hmem⟩ | ⟨later, e, g, hold, hmem, hspares, hx⟩)
    · exact ⟨[], x, g, granted_cons_iff.mpr (Or.inl ⟨rfl, rfl, hgrant⟩), hmem, by simp⟩
    · exact ⟨x :: later, e, g, hold.cons x, hmem, List.forall_mem_cons.mpr ⟨hx, hspares⟩⟩

/-- A token of a course came with the grant of the call that handed it out. -/
theorem Course.mem_tokens (h : Course policy past store) (hgranted : Granted past later e g)
    (hmem : (t, i) ∈ newTokens policy e.moment g.user) : t ∈ g.tokens := by
  rw [h.grant_eq hgranted, tokens_newGrant]
  exact List.mem_map.mpr ⟨_, hmem, rfl⟩

/-- A token of a course that a refresh takes is the refresh token of its grant. -/
theorem Course.refreshToken?_eq (h : Course policy past store)
    (hgranted : Granted past later e g) (hmem : (t, i) ∈ newTokens policy e.moment g.user)
    (hkind : i.kind = policy.refreshKind) : g.refreshToken? = some t := by
  rw [h.grant_eq hgranted]
  exact (refresh_of_mem_newTokens hmem hkind).1

/-- The store made ready for a grant holds the standing tokens, less those of the grant that is
refreshed. -/
theorem Entitles.get?_iff (hcourse : Course policy past store)
    (hfresh : (drawnTokens past).Nodup)
    (htable : ∀ {t i}, store.tokens.get? t = some i ↔ Standing policy past t i)
    (h : Entitles policy moment store request user before) :
    before.tokens.get? t = some i ↔
      ∃ later e g, Granted past later e g ∧ (t, i) ∈ newTokens policy e.moment g.user ∧
        (∀ y ∈ later, Spares g i y) ∧
        ∀ token, g.refreshToken? = some token → request ≠ .refresh token := by
  cases h with
  | login _ _ =>
    rw [htable]
    simp [Standing]
  | register _ _ =>
    rw [Store.enter, htable]
    simp [Standing]
  | @refresh token issued _ hfound _ =>
    obtain ⟨hget, hkind, _⟩ := refreshable_eq_some_iff.mp hfound
    obtain ⟨_, e', g', hgranted', hmem', _⟩ := htable.mp hget
    have hrefresh := hcourse.refreshToken?_eq hgranted' hmem' hkind
    -- the tokens that are taken are those of the grant of the refresh token
    have htaken : ∀ {t}, (t = token ∨ issued.pairedAccess = some t) ↔ t ∈ g'.tokens := by
      intro t
      rw [hcourse.grant_eq hgranted']
      exact (mem_tokens_iff_of_refresh hmem' hkind).symm
    rw [get?_spend]
    constructor
    · intro hleft
      split at hleft
      · cases hleft
      · next hnot =>
        obtain ⟨later, e, g, hgranted, hmem, hspares⟩ := htable.mp hleft
        refine ⟨later, e, g, hgranted, hmem, hspares, ?_⟩
        intro token' htoken heq
        obtain rfl := GrantRequest.refresh.inj heq
        have hsame := (hgranted.unique hfresh hgranted'
          (Grant.mem_tokens_of_refreshToken? htoken) (htaken.mp (Or.inl rfl))).2.2
        exact hnot (htaken.mpr (hsame ▸ hcourse.mem_tokens hgranted hmem))
    · rintro ⟨later, e, g, hgranted, hmem, hspares, hother⟩
      have hnot : ¬ (t = token ∨ issued.pairedAccess = some t) := by
        intro htake
        have hsame := (hgranted.unique hfresh hgranted' (hcourse.mem_tokens hgranted hmem)
          (htaken.mp htake)).2.2
        exact hother token (hsame ▸ hrefresh) rfl
      rw [if_neg hnot]
      exact htable.mpr ⟨later, e, g, hgranted, hmem, hspares⟩

/-- **The token table.** It holds exactly the tokens that stand. -/
theorem Course.tokens_get?_iff (h : Course policy past store)
    (hfresh : (drawnTokens past).Nodup) :
    store.tokens.get? t = some i ↔ Standing policy past t i := by
  induction h generalizing t i with
  | nil => simp [Standing, not_granted_nil, Store.empty]
  | @idle past _ x _ hidle ih =>
    rw [ih (nodup_drawnTokens_cons hfresh).1, standing_cons_iff]
    constructor
    · rintro ⟨later, e, g, hgranted, hmem, hspares⟩
      exact Or.inr ⟨later, e, g, hgranted, hmem, hspares, spares_of_idle hidle⟩
    · rintro (⟨g, hgrant, _⟩ | ⟨later, e, g, hgranted, hmem, hspares, _⟩)
      · rw [hidle] at hgrant
        cases hgrant
      · exact ⟨later, e, g, hgranted, hmem, hspares⟩
  | @issued past store before moment request user hpast hentitles ih =>
    obtain ⟨hfreshPast, hdistinct, hnew⟩ := nodup_drawnTokens_cons hfresh
    have hbefore := hentitles.get?_iff hpast hfreshPast (fun {t i} => ih hfreshPast)
      (t := t) (i := i)
    rw [Entry.tokens_eq rfl, tokens_newGrant] at hdistinct hnew
    rw [standing_cons_iff]
    by_cases ht : t ∈ (newTokens policy moment user).map Prod.fst
    · constructor
      · intro hget
        obtain ⟨⟨_, i'⟩, hmem, rfl⟩ := List.mem_map.mp ht
        rw [get?_issue_of_mem hdistinct hmem, Option.some.injEq] at hget
        exact Or.inl ⟨_, rfl, by rwa [user_newGrant, ← hget]⟩
      · rintro (⟨g, hgrant, hmem⟩ | ⟨later, e, g, hgranted, hmem, _, _⟩)
        · cases hgrant
          rw [user_newGrant] at hmem
          exact get?_issue_of_mem hdistinct hmem
        · exact absurd (hgranted.mem_drawnTokens (hpast.mem_tokens hgranted hmem)) (hnew t ht)
    · rw [get?_issue_of_not_mem ht, Option.filter_eq_some_iff, hbefore]
      constructor
      · rintro ⟨⟨later, e, g, hgranted, hmem, hspares, hother⟩, hlive⟩
        refine Or.inr ⟨later, e, g, hgranted, hmem, hspares, ?_, fun _ => hlive⟩
        intro token htoken
        exact Bool.eq_false_iff.mpr fun hspends =>
          hother token htoken (Entry.spends_granted_iff.mp hspends)
      · rintro (⟨g, hgrant, hmem⟩ | ⟨later, e, g, hgranted, hmem, hspares, hx⟩)
        · cases hgrant
          rw [user_newGrant] at hmem
          exact absurd (List.mem_map.mpr ⟨_, hmem, rfl⟩) ht
        · refine ⟨⟨later, e, g, hgranted, hmem, hspares, ?_⟩, hx.live rfl⟩
          intro token htoken heq
          have hspends := hx.unspent htoken
          rw [Entry.spends_granted_iff.mpr heq] at hspends
          cases hspends

end

end IdentityGateway.Memory
