import IdentityGateway.Proofs.Memory.Accounts
import IdentityGateway.Proofs.Memory.TokenTable

/-!
# Look-ups of a core in memory

A look-up gives a user exactly if the token is the access token of a grant that was made for
the user, has not come to its end, and whose refresh token was not spent since. The user is
the record that was made when the user registered.
-/

namespace IdentityGateway.Memory

/-- A token stands for a user at a time, as far as a history tells. -/
def Resolves (policy : Policy) (past : List Entry) (now : Timestamp) (token : String)
    (user : Identity) : Prop :=
  ∃ later e g, Granted past later e g ∧ g.accessToken = token ∧ g.user = user ∧
    now.before (e.moment.issuedAt.addSeconds policy.identityLifetime) = true ∧
    ∀ x ∈ later, ∀ used, g.refreshToken? = some used → x.spends used = false

section

variable {policy : Policy} {moment : Moment} {store : Store} {user : Identity} {token : String}
  {past later : List Entry} {e : Entry} {g : Grant} {now : Timestamp}

/-- A look-up takes a token of the right kind that is still good, and gives its user. -/
theorem identityOf_eq_some_iff :
    store.identityOf now token = some user ↔
      ∃ issued, store.tokens.get? token = some issued ∧ issued.kind ≠ .refresh ∧
        issued.isLive now = true ∧ store.users.get? issued.userId = some user := by
  have hbind : store.identityOf now token = some user ↔
      ∃ issued, store.tokens.get? token = some issued ∧
        (if issued.kind ≠ .refresh ∧ issued.isLive now then store.users.get? issued.userId
          else none) = some user := Option.bind_eq_some_iff
  rw [hbind]
  constructor
  · rintro ⟨issued, hget, huser⟩
    split at huser
    · next hgood => exact ⟨issued, hget, hgood.1, hgood.2, huser⟩
    · cases huser
  · rintro ⟨issued, hget, hkind, hlive, huser⟩
    exact ⟨issued, hget, by rw [if_pos ⟨hkind, hlive⟩, huser]⟩

/-- The owner of a token is the user whom its grant was made for. -/
theorem Course.owner_eq_some_iff {issued : IssuedToken} (h : Course policy past store)
    (hids : (drawnIds past).Nodup) (hgranted : Granted past later e g)
    (hmem : (token, issued) ∈ newTokens policy e.moment g.user) :
    store.users.get? issued.userId = some user ↔ g.user = user := by
  have hknown := (h.users_get?_iff hids).mpr ⟨h.registered_of_granted hids hgranted, rfl⟩
  rw [userId_of_mem_newTokens hmem, hknown, Option.some.injEq]

/-- A token that is good now was good at every issue before, if the clock did not go back. -/
theorem live_of_notAhead {issued : IssuedToken} {x : Entry} (hclock : NotAhead past now)
    (hlive : issued.isLive now = true) (hx : x ∈ past) (hsome : x.grant?.isSome) :
    issued.isLive x.moment.issuedAt = true :=
  Timestamp.before_of_le (hclock x hx hsome) hlive

/-- After a course, look-ups give the users that the history tells. -/
theorem Course.identityOf_eq_some_iff (h : Course policy past store) (hfresh : Fresh past)
    (hclock : NotAhead past now) :
    store.identityOf now token = some user ↔ Resolves policy past now token user := by
  rw [Memory.identityOf_eq_some_iff]
  constructor
  · rintro ⟨issued, hget, hkind, hlive, huser⟩
    obtain ⟨later, e, g, hgranted, hmem, hspares⟩ := (h.tokens_get?_iff hfresh.tokens).mp hget
    obtain ⟨htoken, hend⟩ := access_of_mem_newTokens hmem hkind
    refine ⟨later, e, g, hgranted, ?_, ?_, ?_, ?_⟩
    · rw [h.grant_eq hgranted, htoken]
    · exact (h.owner_eq_some_iff hfresh.ids hgranted hmem).mp huser
    · rwa [IssuedToken.isLive, hend] at hlive
    · intro x hx used hused
      exact (hspares x hx).unspent hused
  · rintro ⟨later, e, g, hgranted, htoken, huser, hnow, hunspent⟩
    obtain ⟨issued, hmem, hkind, hend⟩ :=
      exists_access_mem_newTokens policy e.moment g.user
    rw [← h.grant_eq hgranted, htoken] at hmem
    have hlive : issued.isLive now = true := by rwa [IssuedToken.isLive, hend]
    have hstanding : Standing policy past token issued := by
      refine ⟨later, e, g, hgranted, hmem, fun x hx => ⟨hunspent x hx _, ?_⟩⟩
      exact live_of_notAhead hclock hlive (hgranted.mem_of_later hx)
    exact ⟨issued, (h.tokens_get?_iff hfresh.tokens).mpr hstanding, hkind, hlive,
      (h.owner_eq_some_iff hfresh.ids hgranted hmem).mpr huser⟩

/-- **Look-ups.** After any calls of a fresh core, a look-up at a time that no issue was ahead
of gives a user exactly if the token is the access token of a grant that was made for the user,
that has not come to its end, and whose refresh token was not spent since. The user is the one
record that was made under its id when the user registered. -/
theorem lookup_eq_some_iff_resolves (h : (core policy).History .empty past store)
    (hfresh : Fresh past) (hclock : NotAhead past moment.now) (token : String) :
    ∃ found, ((core policy).lookup moment token store).1.result = .ok found ∧
      (∀ user, found = some user ↔ Resolves policy past moment.now token user) ∧
      ∀ user, found = some user → Created policy past user ∧
        ∀ other, Created policy past other → other.id = user.id → other = user := by
  have hcourse := course_of_history h
  refine ⟨store.identityOf moment.now token, rfl, ?_, ?_⟩
  · intro user
    exact hcourse.identityOf_eq_some_iff hfresh hclock
  · intro user hfound
    obtain ⟨later, e, g, hgranted, _, rfl, _⟩ :=
      (hcourse.identityOf_eq_some_iff hfresh hclock).mp hfound
    have hcreated := hcourse.created_iff.mpr (hcourse.registered_of_granted hfresh.ids hgranted)
    exact ⟨hcreated, fun other hother hid =>
      hcourse.created_unique hfresh.ids hcreated hother hid⟩

end

/-! ## A sample run -/

/-- Tokens of one minute, and passwords kept as they are. -/
def samplePolicy : Policy where
  mode := .tokenPair
  requestedLifetime := 60
  scheme := ⟨[], fun _ password => .ok password.toList⟩

/-- A moment at some second, with values that no other second has. -/
def sampleMoment (second : Nat) : Moment where
  now := ⟨second, 0⟩
  userId := String.ofList (List.replicate second 'u')
  salt := []
  firstToken := String.ofList (List.replicate second 'a')
  secondToken := String.ofList (List.replicate second 'b')

/-- A registration and a refresh of what it handed out, the latest first. -/
def sampleCalls : List (Moment × Call) := [
  (sampleMoment 2, .grant (.refresh "b")),
  (sampleMoment 1, .grant (.register ⟨"Ada@x.org", "secret", none⟩))]

/-- The history of the sample calls, and the store that they lead to. -/
def sampleRun : List Entry × Store :=
  (core samplePolicy).run .empty sampleCalls

/-- Whom the registration of the sample run creates. -/
def sampleUser : Identity :=
  newUser (sampleMoment 1) ⟨"Ada@x.org", "secret", none⟩ "$$secret"

/-- In the sample run the second access token stands for the user, and the first does not. -/
theorem resolves_sampleRun :
    Fresh sampleRun.1 ∧ NotAhead sampleRun.1 (sampleMoment 3).now ∧
      Resolves samplePolicy sampleRun.1 (sampleMoment 3).now "aa" sampleUser ∧
      ¬ Resolves samplePolicy sampleRun.1 (sampleMoment 3).now "a" sampleUser := by
  have hhistory := (core samplePolicy).history_run .empty sampleCalls
  have hfresh : Fresh sampleRun.1 := ⟨by decide, by decide⟩
  have hclock : NotAhead sampleRun.1 (sampleMoment 3).now := by
    unfold NotAhead
    decide
  refine ⟨hfresh, hclock, ?_, ?_⟩
  · obtain ⟨found, hresult, hiff, _⟩ := lookup_eq_some_iff_resolves hhistory hfresh hclock "aa"
    exact (hiff sampleUser).mp (Except.ok.inj (hresult.symm.trans (by rfl)))
  · obtain ⟨found, hresult, hiff, _⟩ := lookup_eq_some_iff_resolves hhistory hfresh hclock "a"
    have hnone : found = none := Except.ok.inj (hresult.symm.trans (by rfl))
    exact fun hresolves => by cases hnone.symm.trans ((hiff sampleUser).mpr hresolves)

end IdentityGateway.Memory
