import IdentityGateway.Proofs.Memory.Lookup
import IdentityGateway.Proofs.Password

/-!
# Registrations and logins of a core in memory

An email address is taken exactly if an earlier registration used it, up to margins and ASCII
case, and a login succeeds exactly with the password of that registration. Users stay as they
were registered. Passwords are stored by a scheme that tells them apart.
-/

namespace IdentityGateway.Memory

/-- A registration of the history created a user for an account whose email address is a given
one, up to margins and ASCII case. -/
def Enrolled (past : List Entry) (email : String) (account : NewAccount) (user : Identity) :
    Prop :=
  ∃ e ∈ past, e.call = .grant (.register account) ∧ e.registered? = some user ∧
    normalizeEmail account.email = normalizeEmail email

/-- What a core says about accounts at a moment after a history. -/
structure AccountsAt (policy : Policy) (past : List Entry) (moment : Moment) (store : Store) :
    Prop where
  /-- A registration finds the email address taken exactly if an earlier one used it. -/
  taken : ∀ account,
    ((core policy).grant moment (.register account) store).1.result = .error .emailTaken ↔
      ∃ earlier user, Enrolled past account.email earlier user
  /-- Every other registration creates a user that was not there, and gets a grant for it. -/
  created : ∀ account, (∀ earlier user, ¬ Enrolled past account.email earlier user) →
    ∃ user, user.email = normalizeEmail account.email ∧ user.name = account.name ∧
      ((core policy).grant moment (.register account) store).1.result =
        .ok (newGrant policy moment user) ∧
      store.users.get? user.id = none ∧
      ((core policy).grant moment (.register account) store).2.users.get? user.id = some user
  /-- A login gets a grant exactly if an earlier registration used the email address and the
  password, and it is for the user of that registration. -/
  admitted : ∀ email password g,
    ((core policy).grant moment (.login email password) store).1.result = .ok g ↔
      ∃ account user, Enrolled past email account user ∧ account.password = password ∧
        g = newGrant policy moment user
  /-- Every other login is refused. -/
  refused : ∀ email password,
    (∀ account user, Enrolled past email account user → account.password ≠ password) →
      ((core policy).grant moment (.login email password) store).1.result =
        .error .invalidCredentials
  /-- The users are those who registered, as they were registered. -/
  unchanged : ∀ user, Registered past user ↔ store.users.get? user.id = some user
  /-- No call changes or removes a user, or hides it from its email address. -/
  kept : ∀ call,
    (∀ id user, store.users.get? id = some user →
      ((core policy).reply moment call store).2.users.get? id = some user) ∧
    ∀ email user, store.userOf email = some user →
      ((core policy).reply moment call store).2.userOf email = some user

section

variable {policy : Policy} {moment : Moment} {store : Store} {user : Identity}
  {account : NewAccount} {past : List Entry} {email password : String}

/-! ## Passwords -/

/-- If hashing never fails, something is stored for every password. -/
theorem exists_storedPassword (hexact : policy.scheme.Exact) (hsalt : moment.saltFault = none)
    (password : String) : ∃ stored, storedPassword policy moment password = .ok stored := by
  obtain ⟨stored, hstored⟩ := hexact.stores moment.salt password
  exact ⟨stored, by simp only [storedPassword, hsalt, hstored]⟩

/-- What is stored for a password is made of it by the scheme. -/
theorem store_of_storedPassword {stored : String}
    (h : storedPassword policy moment password = .ok stored) :
    policy.scheme.store moment.salt password = .ok stored := by
  unfold storedPassword at h
  cases hfault : moment.saltFault with
  | some detail =>
    rw [hfault] at h
    cases h
  | none =>
    cases hstore : policy.scheme.store moment.salt password with
    | error detail =>
      simp only [hfault, hstore] at h
      cases h
    | ok text =>
      simp only [hfault, hstore] at h
      rw [Except.ok.inj h]

/-- Under an exact scheme a new user logs in with the password of the registration and no other. -/
theorem passwordFits_newUser_iff (hexact : policy.scheme.Exact) {stored : String}
    (hstored : storedPassword policy moment account.password = .ok stored) :
    passwordFits policy (newUser moment account stored) password = true ↔
      account.password = password := by
  rw [passwordFits, newUser, Option.any_some,
    hexact.verifies (store_of_storedPassword hstored)]
  exact eq_comm

/-! ## Enrolled users -/

/-- The user that a registration of a course created is made of its account. -/
theorem Course.newUser_of_registered? (h : Course policy past store) {e : Entry} (he : e ∈ past)
    (hcall : e.call = .grant (.register account)) (hnew : e.registered? = some user) :
    ∃ stored, storedPassword policy e.moment account.password = .ok stored ∧
      user = newUser e.moment account stored := by
  induction h with
  | nil => cases he
  | idle _ hidle ih =>
    rcases List.mem_cons.mp he with rfl | he
    · rw [registered?_of_idle hidle] at hnew
      cases hnew
    · exact ih he
  | issued _ hentitles ih =>
    rcases List.mem_cons.mp he with rfl | he
    · obtain rfl := Call.grant.inj hcall
      cases hentitles with
      | @register _ stored hstored _ =>
        simp only [Entry.registered?, Entry.grant?, Option.map_some, user_newGrant,
          Option.some.injEq] at hnew
        exact ⟨stored, hstored, hnew.symm⟩
    · exact ih he

/-- The users enrolled with an email address are those that registered under it. -/
theorem Course.exists_enrolled_iff (h : Course policy past store) :
    (∃ account, Enrolled past email account user) ↔
      Registered past user ∧ user.email = normalizeEmail email := by
  constructor
  · rintro ⟨account, e, he, hcall, hnew, hsame⟩
    obtain ⟨stored, _, rfl⟩ := h.newUser_of_registered? he hcall hnew
    exact ⟨⟨e, he, hnew⟩, hsame⟩
  · rintro ⟨⟨e, he, hnew⟩, hemail⟩
    have hcall : ∃ account, e.call = .grant (.register account) := by
      unfold Entry.registered? at hnew
      split at hnew
      · next account hcall => exact ⟨account, hcall⟩
      · cases hnew
    obtain ⟨account, hcall⟩ := hcall
    obtain ⟨stored, _, rfl⟩ := h.newUser_of_registered? he hcall hnew
    exact ⟨account, e, he, hcall, hnew, hemail⟩

/-- An email address is taken exactly if a user is enrolled with it. -/
theorem Course.taken_iff (h : Course policy past store) :
    store.byEmail.contains (normalizeEmail email) = true ↔
      ∃ account user, Enrolled past email account user := by
  rw [Table.contains, Option.isSome_iff_exists]
  constructor
  · rintro ⟨id, hid⟩
    obtain ⟨user, hregistered, hemail, _⟩ := h.byEmail_get?_iff.mp hid
    obtain ⟨account, henrolled⟩ := h.exists_enrolled_iff.mpr ⟨hregistered, hemail⟩
    exact ⟨account, user, henrolled⟩
  · rintro ⟨account, user, henrolled⟩
    obtain ⟨hregistered, hemail⟩ := h.exists_enrolled_iff.mp ⟨account, henrolled⟩
    exact ⟨user.id, h.byEmail_get?_iff.mpr ⟨user, hregistered, hemail, rfl⟩⟩

/-- The password of an enrolled user is that of the account. -/
theorem Course.passwordFits_iff (h : Course policy past store) (hexact : policy.scheme.Exact)
    (henrolled : Enrolled past email account user) :
    passwordFits policy user password = true ↔ account.password = password := by
  obtain ⟨e, he, hcall, hnew, _⟩ := henrolled
  obtain ⟨stored, hstored, rfl⟩ := h.newUser_of_registered? he hcall hnew
  exact passwordFits_newUser_iff hexact hstored

/-- A login finds a user whose password fits exactly if the user is enrolled with the email
address and the password. -/
theorem Course.candidate_eq_some_iff (h : Course policy past store)
    (hexact : policy.scheme.Exact) (hids : (drawnIds past).Nodup) :
    ((store.userOf email).filter fun u => passwordFits policy u password) = some user ↔
      ∃ account, Enrolled past email account user ∧ account.password = password := by
  rw [Option.filter_eq_some_iff, h.userOf_eq_some_iff hids, ← h.exists_enrolled_iff]
  constructor
  · rintro ⟨⟨account, henrolled⟩, hfits⟩
    exact ⟨account, henrolled, (h.passwordFits_iff hexact henrolled).mp hfits⟩
  · rintro ⟨account, henrolled, hpassword⟩
    exact ⟨⟨account, henrolled⟩, (h.passwordFits_iff hexact henrolled).mpr hpassword⟩

/-! ## The next call -/

/-- A registration whose email address is taken is told so. -/
theorem register_of_taken {stored : String}
    (hstored : storedPassword policy moment account.password = .ok stored)
    (htaken : store.byEmail.contains (normalizeEmail account.email) = true) :
    register policy moment account store = (.error .emailTaken, store) := by
  simp only [register, hstored, enroll, newUser, htaken, if_true]

/-- A registration whose email address is free enters its user and gets a grant. -/
theorem register_of_free {stored : String}
    (hstored : storedPassword policy moment account.password = .ok stored)
    (hfree : store.byEmail.contains (normalizeEmail account.email) = false) :
    register policy moment account store =
      (.ok (newGrant policy moment (newUser moment account stored)),
        (issue policy moment (newUser moment account stored)
          (store.enter (newUser moment account stored))).2) := by
  simp only [register, hstored, enroll, newUser, hfree, Bool.false_eq_true, if_false, issue_fst]

/-- A login with the email address and the password of an enrolled user gets a grant for the
user. -/
theorem Course.login_of_enrolled (h : Course policy past store) (hexact : policy.scheme.Exact)
    (hids : (drawnIds past).Nodup) (henrolled : Enrolled past email account user)
    (hpassword : account.password = password) :
    (login policy moment email password store).1 = .ok (newGrant policy moment user) := by
  have hfound := (h.candidate_eq_some_iff hexact hids).mpr ⟨account, henrolled, hpassword⟩
  simp only [login, hfound, issue_fst]

/-- A login is refused if no user is enrolled with its email address and password. -/
theorem Course.login_of_not_enrolled (h : Course policy past store)
    (hexact : policy.scheme.Exact) (hids : (drawnIds past).Nodup)
    (hnone : ∀ account user, Enrolled past email account user → account.password ≠ password) :
    (login policy moment email password store).1 = .error .invalidCredentials := by
  cases hfound : (store.userOf email).filter fun u => passwordFits policy u password with
  | none => simp only [login, hfound]
  | some user =>
    obtain ⟨account, henrolled, hpassword⟩ := (h.candidate_eq_some_iff hexact hids).mp hfound
    exact absurd hpassword (hnone account user henrolled)

/-- A user that the next call creates has the id drawn for it. -/
theorem id_of_registered? (hsound : store.Sound) {call : Call}
    (hnew : (⟨moment, call, ((core policy).reply moment call store).1⟩ : Entry).registered? =
      some user) : user.id = .text moment.userId := by
  cases call with
  | lookup token => cases hnew
  | grant request =>
    rw [reply_grant] at hnew
    rcases grant_cases hsound moment request with
      ⟨failure, hrefused⟩ | ⟨owner, _, hentitles, hok⟩
    · rw [hrefused, registered?_of_idle rfl] at hnew
      cases hnew
    · rw [hok] at hnew
      cases hentitles with
      | register _ _ =>
        simp only [Entry.registered?, Entry.grant?, Option.map_some, user_newGrant,
          Option.some.injEq] at hnew
        rw [← hnew]
        rfl
      | login _ _ => cases hnew
      | refresh _ _ => cases hnew

/-- Ids stay distinct in the next call if the one drawn for it is new. -/
theorem nodup_drawnIds_of_reply (hsound : store.Sound) (hids : (drawnIds past).Nodup)
    (hnew : .text moment.userId ∉ drawnIds past) (call : Call) :
    (drawnIds (⟨moment, call, ((core policy).reply moment call store).1⟩ :: past)).Nodup := by
  rw [drawnIds, List.filterMap_cons]
  cases hcreated : (⟨moment, call, ((core policy).reply moment call store).1⟩ :
      Entry).registered? with
  | none => exact hids
  | some user =>
    have hfresh : user.id ∉ drawnIds past := by rwa [id_of_registered? hsound hcreated]
    exact List.nodup_cons.mpr ⟨hfresh, hids⟩

/-- **Accounts.** After any calls of a fresh core whose hashing is exact and never fails, an
email address is taken exactly if an earlier registration used it up to margins and ASCII case,
and a login succeeds exactly with the password of that registration, for its user. Users stay
as they were registered, whatever is called next. -/
theorem accountsAt_of_history (hexact : policy.scheme.Exact)
    (h : (core policy).History .empty past store) (hids : (drawnIds past).Nodup)
    (hnew : .text moment.userId ∉ drawnIds past) (hsalt : moment.saltFault = none) :
    AccountsAt policy past moment store := by
  have hcourse := course_of_history h
  constructor
  case taken =>
    intro account
    obtain ⟨stored, hstored⟩ := exists_storedPassword hexact hsalt account.password
    rw [← hcourse.taken_iff]
    change (register policy moment account store).1 = .error .emailTaken ↔ _
    cases htaken : store.byEmail.contains (normalizeEmail account.email) with
    | true => simp [register_of_taken hstored htaken]
    | false => simp [register_of_free hstored htaken]
  case created =>
    intro account hnone
    obtain ⟨stored, hstored⟩ := exists_storedPassword hexact hsalt account.password
    have hfree : store.byEmail.contains (normalizeEmail account.email) = false := by
      rw [Bool.eq_false_iff, Ne, hcourse.taken_iff]
      rintro ⟨earlier, user, henrolled⟩
      exact hnone earlier user henrolled
    have hregister := register_of_free hstored hfree
    refine ⟨newUser moment account stored, rfl, rfl, congrArg Prod.fst hregister, ?_, ?_⟩
    · cases hfound : store.users.get? (.text moment.userId) with
      | none => exact hfound
      | some user =>
        obtain ⟨hregistered, hid⟩ := (hcourse.users_get?_iff hids).mp hfound
        exact absurd (hid ▸ hregistered.mem_drawnIds) hnew
    · change (register policy moment account store).2.users.get? _ = _
      rw [hregister, users_issue, Store.enter, Table.get?_insert, if_pos rfl]
  case admitted =>
    intro email password g
    change (login policy moment email password store).1 = .ok g ↔ _
    constructor
    · intro hok
      by_cases henrolled : ∃ account user, Enrolled past email account user ∧
          account.password = password
      · obtain ⟨account, user, henrolled, hpassword⟩ := henrolled
        have hgranted : (login policy moment email password store).1 =
            .ok (newGrant policy moment user) :=
          hcourse.login_of_enrolled hexact hids henrolled hpassword
        exact ⟨account, user, henrolled, hpassword, Except.ok.inj (hok.symm.trans hgranted)⟩
      · have hrefused : (login policy moment email password store).1 =
            .error .invalidCredentials :=
          hcourse.login_of_not_enrolled hexact hids
            fun account user hold hpassword => henrolled ⟨account, user, hold, hpassword⟩
        cases hok.symm.trans hrefused
    · rintro ⟨account, user, henrolled, hpassword, rfl⟩
      exact hcourse.login_of_enrolled hexact hids henrolled hpassword
  case refused =>
    intro email password hnone
    exact hcourse.login_of_not_enrolled hexact hids hnone
  case unchanged =>
    intro user
    rw [hcourse.users_get?_iff hids]
    simp
  case kept =>
    intro call
    have hids' :
        (drawnIds (⟨moment, call, ((core policy).reply moment call store).1⟩ :: past)).Nodup :=
      nodup_drawnIds_of_reply hcourse.sound hids hnew call
    have hcourse' := course_of_history (h.cons moment call)
    refine ⟨?_, hcourse.userOf_of_cons hcourse' hids'⟩
    intro id user hfound
    obtain ⟨hregistered, hid⟩ := (hcourse.users_get?_iff hids).mp hfound
    exact (hcourse'.users_get?_iff hids').mpr ⟨hregistered.cons _, hid⟩

end

/-! ## Two users -/

/-- Sessions, and passwords that are kept so that no two of them look alike. -/
def openPolicy : Policy := ⟨.session, 0, Password.openScheme⟩

/-- Two registrations with different passwords, the latest first. -/
def openCalls : List (Moment × Call) := [
  (sampleMoment 2, .grant (.register ⟨"bob@x.org", "hidden", none⟩)),
  (sampleMoment 1, .grant (.register ⟨" Ada@X.org", "pa$$word", some "Ada"⟩))]

/-- The history of the two registrations, and the store that they lead to. -/
def openRun : List Entry × Store :=
  (core openPolicy).run .empty openCalls

/-- The user with a name and with blanks and capitals in the address, whom logins have to find. -/
def openUser : Identity :=
  newUser (sampleMoment 1) ⟨" Ada@X.org", "pa$$word", some "Ada"⟩ "$$.p.a!s!s.w.o.r.d"

/-- The first user is enrolled under another spelling of the email address, and only the right
password of the two lets anybody in under it. -/
theorem accountsAt_openRun :
    (drawnIds openRun.1).Nodup ∧ .text (sampleMoment 3).userId ∉ drawnIds openRun.1 ∧
      AccountsAt openPolicy openRun.1 (sampleMoment 3) openRun.2 ∧
      openUser.email = "ada@x.org" ∧
      (∃ account, Enrolled openRun.1 "ada@x.ORG\u00a0" account openUser ∧
        account.password = "pa$$word") ∧
      ∀ account user, Enrolled openRun.1 "ada@x.ORG\u00a0" account user →
        account.password ≠ "hidden" := by
  have hids : (drawnIds openRun.1).Nodup := by decide
  have hnew : .text (sampleMoment 3).userId ∉ drawnIds openRun.1 := by decide
  have haccounts : AccountsAt openPolicy openRun.1 (sampleMoment 3) openRun.2 :=
    accountsAt_of_history Password.openScheme_exact
      ((core openPolicy).history_run .empty openCalls) hids hnew rfl
  refine ⟨hids, hnew, haccounts, by decide, ?_, ?_⟩
  · obtain ⟨account, user, henrolled, hpassword, hgrant⟩ :=
      (haccounts.admitted "ada@x.ORG\u00a0" "pa$$word"
        (newGrant openPolicy (sampleMoment 3) openUser)).mp (by rfl)
    have huser := congrArg Grant.user hgrant
    rw [user_newGrant, user_newGrant] at huser
    exact ⟨account, huser ▸ henrolled, hpassword⟩
  · intro account user henrolled hpassword
    have hgranted := (haccounts.admitted "ada@x.ORG\u00a0" "hidden" _).mpr
      ⟨account, user, henrolled, hpassword, rfl⟩
    have hrefused : ((core openPolicy).grant (sampleMoment 3)
      (.login "ada@x.ORG\u00a0" "hidden") openRun.2).1.result.toOption = none := by decide +kernel
    rw [hgranted] at hrefused
    cases hrefused

end IdentityGateway.Memory
