import IdentityGateway.Core.Span
import IdentityGateway.Proofs.Memory.Endurance

/-!
# Lifetimes of access tokens

The lifetime that a client is told of its access token is the one that look-ups go by, to the
second: the token is good strictly before its end and never from then on. In words of 64 bits
nothing is lost on the way, whatever lifetime was asked for.
-/

namespace IdentityGateway.Memory

open Json (Value)

/-! ## Words -/

private theorem toNat_min (a b : UInt64) : (min a b).toNat = min a.toNat b.toNat := by
  simp only [min, UInt64.le_iff_toNat_le]
  split <;> rfl

/-- A word that leaves the bit for the sign free stays the same number with a sign. -/
theorem toInt_toInt64 {n : UInt64} (hn : n.toNat < Nat.pow 2 63) : n.toInt64.toInt = n.toNat := by
  rw [← UInt64.ofNat_toNat (x := n), UInt64.toInt64_ofNat', UInt64.ofNat_toNat]
  exact Int64.toInt_ofNat_of_lt hn

/-- Seconds between none and the longest span have a span. -/
theorem span?_eq_some {seconds : Int64} (hfirst : 0 ≤ seconds.toInt)
    (hlast : seconds.toInt ≤ longestSpan.toInt) : span? seconds = some seconds := by
  have hnegative : (-longestSpan).toInt ≤ 0 := by decide
  have hlow : -longestSpan ≤ seconds :=
    Int64.le_iff_toInt_le.mpr (Int.le_trans hnegative hfirst)
  have hhigh : seconds ≤ longestSpan := Int64.le_iff_toInt_le.mpr hlast
  rw [span?, if_pos ⟨hlow, hhigh⟩]

/-- What is kept of a lifetime is the lifetime itself up to the longest. -/
theorem toInt_keptSpan (lifetime : UInt64) :
    (keptSpan lifetime).toInt = (min lifetime.toNat longestLifetime : Nat) := by
  have hle : min lifetime.toNat longestLifetime ≤ longestLifetime := Nat.min_le_right _ _
  have hlongest : (UInt64.ofNat longestLifetime).toNat = longestLifetime := by decide
  have hcut : (min lifetime (UInt64.ofNat longestLifetime)).toNat =
      min lifetime.toNat longestLifetime := by rw [toNat_min, hlongest]
  -- ten years of seconds are far from the sign, and from the longest span
  have hfree : longestLifetime < Nat.pow 2 63 := by decide
  have hshort : (longestLifetime : Int) ≤ longestSpan.toInt := by decide
  have hsigned : (min lifetime (UInt64.ofNat longestLifetime)).toInt64.toInt =
      (min lifetime.toNat longestLifetime : Nat) := by
    rw [toInt_toInt64 (hcut ▸ Nat.lt_of_le_of_lt hle hfree), hcut]
  have hspan : span? (min lifetime (UInt64.ofNat longestLifetime)).toInt64 = some _ :=
    span?_eq_some (hsigned ▸ Int.natCast_nonneg _)
      (hsigned ▸ Int.le_trans (Int.ofNat_le.mpr hle) hshort)
  rw [keptSpan, hspan, Option.getD_some, hsigned]

/-- What is told of a span that is not negative is the span. -/
theorem toNat_toldSeconds {span : Int64} (hspan : 0 ≤ span.toInt) :
    ((toldSeconds span).toNat : Int) = span.toInt := by
  have hle : 0 ≤ span := Int64.le_iff_toInt_le.mpr hspan
  have hmax : max span 0 = span := by
    simp only [max]
    split
    · next hzero => exact Int64.le_antisymm hle hzero
    · rfl
  rw [toldSeconds, hmax, Int64.toNat_toUInt64_of_le hle, Int64.cast_toNatClampNeg _ hle]

/-- The lifetime in seconds of tokens that look-ups take. -/
def lifetimeOf (mode : GrantMode) (lifetime : UInt64) : Nat :=
  match mode with
  | .session => 604800
  | .tokenPair => min lifetime.toNat (10 * 365 * 86400)

section

variable {mode : GrantMode} {lifetime : UInt64} {scheme : Password.Scheme} {policy : Policy}
  {moment : Moment} {user : Identity} {token : String} {issued : IssuedToken} {store : Store}
  {past later : List Entry} {e : Entry} {g : Grant}

/-- It is the lifetime that the core goes by. -/
theorem identityLifetime_eq (mode : GrantMode) (lifetime : UInt64) (scheme : Password.Scheme) :
    Policy.identityLifetime ⟨mode, lifetime.toNat, scheme⟩ = lifetimeOf mode lifetime := by
  cases mode <;> rfl

private theorem toInt_tokenSpan (mode : GrantMode) (lifetime : UInt64) :
    (tokenSpan mode lifetime).toInt = lifetimeOf mode lifetime := by
  cases mode with
  | session => exact toInt_keptSpan (UInt64.ofNat Grant.sessionLifetime)
  | tokenPair => exact toInt_keptSpan lifetime

private theorem toNat_toldLifetime (mode : GrantMode) (lifetime : UInt64) :
    (toldLifetime mode lifetime).toNat = lifetimeOf mode lifetime := by
  cases mode with
  | session => rfl
  | tokenPair =>
    have hkept := toInt_keptSpan lifetime
    have htold := toNat_toldSeconds (hkept ▸ Int.natCast_nonneg _)
    exact Int.ofNat_inj.mp (htold.trans hkept)

/-! ## Ends of tokens -/

/-- No token outlives the longest lifetime. -/
theorem exists_lifetime_of_mem_newTokens
    (hmem : (token, issued) ∈ newTokens policy moment user) :
    ∃ n ≤ longestLifetime, issued.expiresAt = moment.issuedAt.addSeconds n := by
  unfold newTokens at hmem
  cases hmode : policy.mode with
  | session =>
    simp only [hmode, List.mem_singleton, Prod.mk.injEq] at hmem
    obtain ⟨-, rfl⟩ := hmem
    exact ⟨Grant.sessionLifetime, by decide, rfl⟩
  | tokenPair =>
    simp only [hmode, List.mem_cons, Prod.mk.injEq, List.not_mem_nil, or_false] at hmem
    rcases hmem with ⟨-, rfl⟩ | ⟨-, rfl⟩
    · exact ⟨policy.accessLifetime, Nat.min_le_right _ _, rfl⟩
    · exact ⟨refreshLifetime, by decide, rfl⟩

/-- A reading of the clock that the longest lifetime can be added to. -/
structure HasRoom (t : Timestamp) : Prop where
  whole : t.nanos < Timestamp.nanosPerSecond
  first : Timestamp.firstSecond ≤ t.seconds
  last : t.seconds + longestLifetime ≤ Timestamp.lastSecond

/-- What is not later than the longest lifetime is supported. -/
theorem HasRoom.isSupported {t : Timestamp} (h : HasRoom t) {n : Nat} (hn : n ≤ longestLifetime) :
    (t.addSeconds n).isSupported = true := by
  have hfirst : Timestamp.firstSecond ≤ t.seconds + n := by
    have := h.first
    omega
  have hlast : t.seconds + n ≤ Timestamp.lastSecond := by
    have := h.last
    omega
  simp [Timestamp.isSupported, Timestamp.addSeconds, hfirst, hlast, h.whole]

/-! ## What clients are told, and what look-ups go by -/

/-- A grant is told the lifetime of its policy, and its access token. -/
theorem view_newGrant (policy : Policy) (moment : Moment) (user : Identity) :
    (newGrant policy moment user).view.get? "expires_in" =
        some (Value.integer policy.identityLifetime) ∧
      (newGrant policy moment user).view.get? "access_token" =
        some (.string (newGrant policy moment user).accessToken) := by
  unfold newGrant Policy.identityLifetime
  cases policy.mode <;> exact ⟨rfl, rfl⟩

/-- As long as no refresh takes it, the access token of a grant stands for the user of the grant and
nobody else, exactly before its end. -/
theorem Course.identityOf_granted_iff (h : Course policy past store) (hfresh : Fresh past)
    (hgranted : Granted past later e g) (hunspent : Unspent later g) {now : Timestamp}
    (hclock : NotAhead past now) :
    store.identityOf now g.accessToken = some user ↔ g.user = user ∧
      now.before (e.moment.issuedAt.addSeconds policy.identityLifetime) = true := by
  rw [h.identityOf_eq_some_iff hfresh hclock]
  constructor
  · rintro ⟨later', e', g', hgranted', htoken, huser, hnow, -⟩
    obtain ⟨-, rfl, rfl⟩ := hgranted.unique hfresh.tokens hgranted' g.accessToken_mem_tokens
      (htoken ▸ g'.accessToken_mem_tokens)
    exact ⟨huser, hnow⟩
  · rintro ⟨huser, hnow⟩
    exact ⟨later, e, g, hgranted, rfl, huser, hnow, hunspent⟩

/-- The response to a grant tells a lifetime and an access token. As long as no refresh takes the
grant and the clock does not go back, look-ups give the user of the grant for the token strictly
before the lifetime ends, and nobody from then on. -/
structure KeepsLifetime (core : Core Store) (past later : List Entry) (e : Entry) (g : Grant)
    (store : Store) (lifetime : Nat) : Prop where
  told : g.view.get? "expires_in" = some (Value.integer lifetime)
  token : g.view.get? "access_token" = some (.string g.accessToken)
  resolves : ∀ moment, NotAhead past moment.now → Unspent later g →
    moment.now.before (e.moment.issuedAt.addSeconds lifetime) = true →
      (core.lookup moment g.accessToken store).1.result = .ok (some g.user)
  ends : ∀ moment, NotAhead past moment.now → Unspent later g →
    moment.now.before (e.moment.issuedAt.addSeconds lifetime) = false →
      (core.lookup moment g.accessToken store).1.result = .ok none

/-- A core in memory keeps the lifetime of its policy. -/
theorem Course.keepsLifetime (h : Course policy past store) (hfresh : Fresh past)
    (hgranted : Granted past later e g) :
    KeepsLifetime (core policy) past later e g store policy.identityLifetime := by
  obtain ⟨htold, htoken⟩ := view_newGrant policy e.moment g.user
  rw [← h.grant_eq hgranted] at htold htoken
  constructor
  case told => exact htold
  case token => exact htoken
  case resolves =>
    intro moment hclock hunspent hbefore
    have hfound := (h.identityOf_granted_iff hfresh hgranted hunspent hclock).mpr ⟨rfl, hbefore⟩
    exact congrArg Except.ok hfound
  case ends =>
    intro moment hclock hunspent hended
    have hnone : store.identityOf moment.now g.accessToken = none := by
      rw [Option.eq_none_iff_forall_ne_some]
      intro user hfound
      obtain ⟨-, hbefore⟩ := (h.identityOf_granted_iff hfresh hgranted hunspent hclock).mp hfound
      cases hended.symm.trans hbefore
    exact congrArg Except.ok hnone

/-- **Lifetimes.** Whatever lifetime a core in memory is asked for, in words of 64 bits: the
lifetime that is told of a grant and the span that is added to its issue are the same number, which
look-ups keep. No end of a token goes beyond what is supported if the clock leaves room for ten
years. -/
theorem lifetime_kept
    (h : (core ⟨mode, lifetime.toNat, scheme⟩).History .empty past store) (hfresh : Fresh past)
    (hgranted : Granted past later e g) :
    (toldLifetime mode lifetime).toNat = lifetimeOf mode lifetime ∧
      (tokenSpan mode lifetime).toInt = lifetimeOf mode lifetime ∧
      KeepsLifetime (core ⟨mode, lifetime.toNat, scheme⟩) past later e g store
        (lifetimeOf mode lifetime) ∧
      (HasRoom e.moment.issuedAt → ∀ x ∈ newTokens ⟨mode, lifetime.toNat, scheme⟩ e.moment g.user,
        x.2.expiresAt.isSupported = true) := by
  have hkept := (course_of_history h).keepsLifetime hfresh hgranted
  rw [identityLifetime_eq] at hkept
  refine ⟨toNat_toldLifetime mode lifetime, toInt_tokenSpan mode lifetime, hkept, ?_⟩
  rintro hroom ⟨token, issued⟩ hmem
  obtain ⟨n, hn, hend⟩ := exists_lifetime_of_mem_newTokens hmem
  exact hend ▸ hroom.isSupported hn

end

/-! ## The greatest lifetime that can be asked for -/

/-- Token pairs of the greatest lifetime that is a word. -/
def greatestPolicy : Policy :=
  ⟨.tokenPair, UInt64.toNat 0xFFFFFFFFFFFFFFFF, samplePolicy.scheme⟩

/-- A single registration under that policy, from an empty store. -/
def greatestRun : List Entry × Store :=
  (core greatestPolicy).run .empty
    [(sampleMoment 1, .grant (.register ⟨"Ada@x.org", "secret", none⟩))]

/-- What the registration hands out, whose end look-ups are tried before and after. -/
def greatestGrant : Grant :=
  newGrant greatestPolicy (sampleMoment 1) sampleUser

/-- Its lifetime is told to be ten years, and look-ups keep to the second of its end. -/
theorem lifetime_kept_greatest :
    let lookupAt (seconds : Int) := ((core greatestPolicy).lookup
      { sampleMoment 2 with now := ⟨seconds, 0⟩ } greatestGrant.accessToken greatestRun.2).1.result
    greatestGrant.view.get? "expires_in" = some (Value.integer 315360000) ∧
      lookupAt 315360000 = .ok (some sampleUser) ∧ lookupAt 315360001 = .ok none ∧
      ∀ x ∈ newTokens greatestPolicy (sampleMoment 1) sampleUser,
        x.2.expiresAt.isSupported = true := by
  intro lookupAt
  have hhistory : (core greatestPolicy).History .empty greatestRun.1 greatestRun.2 :=
    (core greatestPolicy).history_run .empty _
  have hfresh : Fresh greatestRun.1 := ⟨by decide, by decide⟩
  have hgranted : Granted greatestRun.1 []
      ⟨sampleMoment 1, .grant (.register ⟨"Ada@x.org", "secret", none⟩),
        .grant (.ok greatestGrant)⟩ greatestGrant := ⟨[], rfl, rfl⟩
  have hunspent : Unspent [] greatestGrant := List.forall_mem_nil _
  have hroom : HasRoom (sampleMoment 1).issuedAt := ⟨by decide, by decide, by decide⟩
  obtain ⟨-, -, hkept, hsupported⟩ := lifetime_kept hhistory hfresh hgranted
  refine ⟨hkept.told, hkept.resolves _ ?_ hunspent (by decide),
    hkept.ends _ ?_ hunspent (by decide), hsupported hroom⟩
  all_goals
    unfold NotAhead
    decide

end IdentityGateway.Memory
