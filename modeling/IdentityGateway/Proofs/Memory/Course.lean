import IdentityGateway.Core.Memory
import IdentityGateway.Proofs.History

/-!
# The course of a core in memory

A call leaves the store of a core in memory alone unless it is answered with a grant, and a
grant is issued to a user whom the request entitles to it. A history of the core is thus a
course of idle calls and of issues, and what holds of its store is proved along the course.
-/

namespace IdentityGateway.Memory

/-- A request entitles a user to a grant, which is issued on a store made ready for it. -/
inductive Entitles (policy : Policy) (moment : Moment) (store : Store) :
    GrantRequest → Identity → Store → Prop where
  /-- A login with the password of a user that is found. -/
  | login {email password : String} {user : Identity} (hfound : store.userOf email = some user)
      (hfits : passwordFits policy user password = true) :
      Entitles policy moment store (.login email password) user store
  /-- A registration with an email address that is not taken. -/
  | register {account : NewAccount} {stored : String}
      (hstored : storedPassword policy moment account.password = .ok stored)
      (hfree : store.byEmail.contains (normalizeEmail account.email) = false) :
      Entitles policy moment store (.register account) (newUser moment account stored)
        (store.enter (newUser moment account stored))
  /-- A refresh with a token that may be taken. -/
  | refresh {token : String} {issued : IssuedToken} {user : Identity}
      (hfound : store.refreshable policy moment.now token = some issued)
      (howner : store.users.get? issued.userId = some user) :
      Entitles policy moment store (.refresh token) user (store.spend token issued)

/-- Users are kept under their ids, and every token belongs to a user. -/
structure Store.Sound (store : Store) : Prop where
  keyed : ∀ {id user}, store.users.get? id = some user → user.id = id
  owned : ∀ {token issued}, store.tokens.get? token = some issued →
    ∃ user, store.users.get? issued.userId = some user

/-- A history as far as the store is concerned: idle calls, and issues to users. -/
inductive Course (policy : Policy) : List Entry → Store → Prop where
  | nil : Course policy [] .empty
  | idle {past : List Entry} {store : Store} {x : Entry} (h : Course policy past store)
      (hidle : x.grant? = none) : Course policy (x :: past) store
  | issued {past : List Entry} {store before : Store} {moment : Moment}
      {request : GrantRequest} {user : Identity} (h : Course policy past store)
      (hentitles : Entitles policy moment store request user before) :
      Course policy
        (⟨moment, .grant request, .grant (.ok (newGrant policy moment user))⟩ :: past)
        (issue policy moment user before).2

section

variable {policy : Policy} {moment : Moment} {store before : Store} {request : GrantRequest}
  {user : Identity} {token t : String} {issued i : IssuedToken} {past : List Entry}

/-! ## Issues -/

/-- The tokens of a grant are those that are put into the table. -/
theorem tokens_newGrant :
    (newGrant policy moment user).tokens = (newTokens policy moment user).map Prod.fst := by
  unfold newGrant newTokens
  cases policy.mode <;> rfl

/-- A grant is for the user it is issued to. -/
@[simp] theorem user_newGrant : (newGrant policy moment user).user = user := by
  unfold newGrant
  cases policy.mode <;> rfl

/-- The tokens that are put into the table belong to the user. -/
theorem userId_of_mem_newTokens (hmem : (t, i) ∈ newTokens policy moment user) :
    i.userId = user.id := by
  unfold newTokens at hmem
  cases hmode : policy.mode <;> simp only [hmode, List.mem_cons, Prod.mk.injEq,
    List.not_mem_nil, or_false] at hmem
  · rw [hmem.2]
  · rcases hmem with ⟨_, rfl⟩ | ⟨_, rfl⟩ <;> rfl

/-- An issue hands out a grant. -/
@[simp] theorem issue_fst : (issue policy moment user store).1 = newGrant policy moment user :=
  rfl

/-- An issue leaves the users alone. -/
@[simp] theorem users_issue : (issue policy moment user store).2.users = store.users := rfl

/-- An issue leaves the email addresses alone. -/
@[simp] theorem byEmail_issue : (issue policy moment user store).2.byEmail = store.byEmail := rfl

/-- A token that an issue does not put into the table stays if it is still good. -/
theorem get?_issue_of_not_mem (ht : t ∉ (newTokens policy moment user).map Prod.fst) :
    (issue policy moment user store).2.tokens.get? t =
      (store.tokens.get? t).filter fun i => i.isLive moment.issuedAt := by
  rw [issue, Table.get?_insertAll_of_not_mem _ ht, Table.get?_keep]

/-- A token that an issue puts into the table is found there. -/
theorem get?_issue_of_mem (hdistinct : ((newTokens policy moment user).map Prod.fst).Nodup)
    (ht : (t, i) ∈ newTokens policy moment user) :
    (issue policy moment user store).2.tokens.get? t = some i :=
  Table.get?_insertAll_of_mem _ hdistinct ht

/-- After an issue the table holds tokens just put into it and tokens that are still good. -/
theorem mem_or_live_of_get?_issue
    (hget : (issue policy moment user store).2.tokens.get? t = some i) :
    (t, i) ∈ newTokens policy moment user ∨
      store.tokens.get? t = some i ∧ i.isLive moment.issuedAt = true := by
  rcases Table.mem_or_of_get?_insertAll hget with hmem | hkept
  · exact Or.inl hmem
  · rw [Table.get?_keep, Option.filter_eq_some_iff] at hkept
    exact Or.inr hkept

/-! ## What a store is made ready by -/

/-- Taking a token leaves the users alone. -/
@[simp] theorem users_spend : (store.spend token issued).users = store.users := by
  unfold Store.spend
  cases issued.pairedAccess <;> rfl

/-- Taking a token leaves the email addresses alone. -/
@[simp] theorem byEmail_spend : (store.spend token issued).byEmail = store.byEmail := by
  unfold Store.spend
  cases issued.pairedAccess <;> rfl

/-- Taking a token takes the one handed out with it, and leaves the others alone. -/
theorem get?_spend : (store.spend token issued).tokens.get? t =
    if t = token ∨ issued.pairedAccess = some t then none else store.tokens.get? t := by
  unfold Store.spend
  cases hpaired : issued.pairedAccess with
  | none => simp [Table.get?_erase]
  | some access =>
    simp only [Table.get?_erase, Option.some.injEq, eq_comm (a := access)]
    by_cases haccess : t = access <;> simp [haccess]

/-- The token that a refresh may take is in the table, of the right kind and still good. -/
theorem refreshable_eq_some_iff {now : Timestamp} :
    store.refreshable policy now token = some issued ↔
      store.tokens.get? token = some issued ∧ issued.kind = policy.refreshKind ∧
        issued.isLive now = true := by
  simp [Store.refreshable, Option.filter_eq_some_iff]

/-- The user that is entitled to a grant is known to the store made ready for it. -/
theorem Entitles.known (h : Entitles policy moment store request user before)
    (hsound : store.Sound) : before.users.get? user.id = some user := by
  cases h with
  | login hfound _ =>
    obtain ⟨id, _, hget⟩ := Option.bind_eq_some_iff.mp hfound
    rw [hsound.keyed hget]
    exact hget
  | register _ _ => simp [Store.enter, Table.get?_insert]
  | refresh _ howner =>
    rw [users_spend, hsound.keyed howner]
    exact howner

/-- A store made ready for a grant is sound. -/
theorem Entitles.sound (h : Entitles policy moment store request user before)
    (hsound : store.Sound) : before.Sound := by
  cases h with
  | login _ _ => exact hsound
  | @register account stored _ _ =>
    constructor
    · intro id user hget
      simp only [Store.enter, Table.get?_insert] at hget
      split at hget
      · next hid => rw [hid, ← Option.some.inj hget]
      · exact hsound.keyed hget
    · intro t i hget
      obtain ⟨owner, howner⟩ := hsound.owned hget
      simp only [Store.enter, Table.get?_insert]
      split
      · exact ⟨_, rfl⟩
      · exact ⟨owner, howner⟩
  | refresh _ _ =>
    constructor
    · intro id user hget
      rw [users_spend] at hget
      exact hsound.keyed hget
    · intro t i hget
      rw [get?_spend] at hget
      split at hget
      · cases hget
      · rw [users_spend]
        exact hsound.owned hget

/-- An issue to a user that the store knows keeps it sound. -/
theorem Store.Sound.issue (hsound : store.Sound)
    (hknown : store.users.get? user.id = some user) :
    (issue policy moment user store).2.Sound := by
  constructor
  · intro id user hget
    exact hsound.keyed hget
  · intro t i hget
    rw [users_issue]
    rcases mem_or_live_of_get?_issue hget with hmem | ⟨hold, _⟩
    · exact ⟨user, by rw [userId_of_mem_newTokens hmem, hknown]⟩
    · exact hsound.owned hold

/-! ## From histories to courses -/

/-- The core answers a request for a grant with a grant or a failure. -/
@[simp] theorem reply_grant : (core policy).reply moment (.grant request) store =
    (.grant (grant policy moment request store).1, (grant policy moment request store).2) := rfl

/-- A request on a sound store is refused and leaves the store alone, or it entitles a user to
the grant that it is answered with. -/
theorem grant_cases (hsound : store.Sound) (moment : Moment) (request : GrantRequest) :
    (∃ failure, grant policy moment request store = (.error failure, store)) ∨
      ∃ user before, Entitles policy moment store request user before ∧
        grant policy moment request store =
          (.ok (newGrant policy moment user), (issue policy moment user before).2) := by
  cases request with
  | login email password =>
    cases hfound : (store.userOf email).filter fun u => passwordFits policy u password with
    | none => exact Or.inl ⟨.invalidCredentials, by simp only [grant, login, hfound]⟩
    | some user =>
      obtain ⟨huser, hfits⟩ := Option.filter_eq_some_iff.mp hfound
      exact Or.inr ⟨user, store, .login huser hfits, by simp only [grant, login, hfound]; rfl⟩
  | register account =>
    cases hstored : storedPassword policy moment account.password with
    | error failure => exact Or.inl ⟨failure, by simp only [grant, register, hstored]⟩
    | ok stored =>
      cases htaken : store.byEmail.contains (normalizeEmail account.email) with
      | true =>
        refine Or.inl ⟨.emailTaken, ?_⟩
        simp only [grant, register, hstored, enroll, newUser, htaken, if_true]
      | false =>
        refine Or.inr ⟨_, _, .register hstored htaken, ?_⟩
        simp only [grant, register, hstored, enroll, newUser, htaken, Bool.false_eq_true, if_false]
        rfl
  | refresh token =>
    cases hfound : store.refreshable policy moment.now token with
    | none => exact Or.inl ⟨.invalidCredentials, by simp only [grant, exchange, hfound]⟩
    | some issued =>
      obtain ⟨user, howner⟩ := hsound.owned (refreshable_eq_some_iff.mp hfound).1
      refine Or.inr ⟨user, _, .refresh hfound howner, ?_⟩
      simp only [grant, exchange, hfound, users_spend, howner]
      rfl

/-- The store is sound after a course. -/
theorem Course.sound (h : Course policy past store) : store.Sound := by
  induction h with
  | nil =>
    constructor
    · intro id user hget
      cases hget
    · intro t i hget
      cases hget
  | idle _ _ ih => exact ih
  | issued _ hentitles ih => exact (hentitles.sound ih).issue (hentitles.known ih)

/-- Every history of the core is a course: a call changed nothing, drew new tokens or spent one.
What a course keeps is therefore kept by every history. -/
theorem course_of_history (h : (core policy).History .empty past store) :
    Course policy past store := by
  induction h with
  | nil => exact .nil
  | cons moment call _ ih =>
    cases call with
    | lookup token => exact .idle ih rfl
    | grant request =>
      rw [reply_grant]
      rcases grant_cases ih.sound moment request with
        ⟨failure, hrefused⟩ | ⟨user, before, hentitles, hgranted⟩
      · rw [hrefused]
        exact .idle ih rfl
      · rw [hgranted]
        exact .issued ih hentitles

/-- A grant of a course is the one that is made for its user at its moment. -/
theorem Course.grant_eq {later : List Entry} {e : Entry} {g : Grant}
    (h : Course policy past store) (hgranted : Granted past later e g) :
    g = newGrant policy e.moment g.user := by
  induction h generalizing later with
  | nil => exact absurd hgranted not_granted_nil
  | idle _ hidle ih =>
    obtain ⟨_, _, hold⟩ := (granted_cons_of_none hidle).mp hgranted
    exact ih hold
  | issued _ _ ih =>
    rcases granted_cons_iff.mp hgranted with ⟨_, rfl, hgrant⟩ | ⟨later', _, hold⟩
    · cases hgrant
      rw [user_newGrant]
    · exact ih hold

end

end IdentityGateway.Memory
