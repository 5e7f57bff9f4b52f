import IdentityGateway.Proofs.Memory.Course

/-!
# The accounts of a core in memory

A core in memory knows exactly the users that its history created, as they were created.
Each is found by id and by email address, and every grant goes to one of them.
-/

namespace IdentityGateway.Memory

/-- A user is the record that a successful registration of the history made. -/
def Created (policy : Policy) (past : List Entry) (user : Identity) : Prop :=
  ∃ e ∈ past, ∃ account stored, e.call = .grant (.register account) ∧ e.grant?.isSome ∧
    storedPassword policy e.moment account.password = .ok stored ∧
    user = newUser e.moment account stored

section

variable {policy : Policy} {moment : Moment} {store before : Store} {request : GrantRequest}
  {user : Identity} {past : List Entry}

/-- An idle call creates no user. -/
theorem registered?_of_idle {x : Entry} (hidle : x.grant? = none) : x.registered? = none := by
  unfold Entry.registered?
  split
  · rw [hidle]
    rfl
  · rfl

/-- A grant leaves the accounts alone, or it answers a registration and enters its user
under an email address that was free. -/
theorem Entitles.accounts {x : Entry} (h : Entitles policy moment store request user before)
    (hx : x = ⟨moment, .grant request, .grant (.ok (newGrant policy moment user))⟩) :
    (x.registered? = none ∧ before.users = store.users ∧ before.byEmail = store.byEmail) ∨
      (x.registered? = some user ∧ before = store.enter user ∧
        store.byEmail.contains user.email = false) := by
  subst hx
  cases h with
  | login _ _ => exact Or.inl ⟨rfl, rfl, rfl⟩
  | register _ hfree =>
    exact Or.inr ⟨by simp [Entry.registered?, Entry.grant?], rfl, hfree⟩
  | refresh _ _ => exact Or.inl ⟨rfl, users_spend, byEmail_spend⟩

/-- The users that were created are the records that registrations made. -/
theorem Course.created_iff (h : Course policy past store) :
    Created policy past user ↔ Registered past user := by
  induction h with
  | nil => simp [Created, Registered]
  | @idle _ _ x _ hidle ih =>
    rw [registered_cons_of_none (registered?_of_idle hidle), ← ih]
    constructor
    · rintro ⟨e, he, account, stored, hcall, hsome, hmade⟩
      rcases List.mem_cons.mp he with rfl | he
      · rw [hidle] at hsome
        cases hsome
      · exact ⟨e, he, account, stored, hcall, hsome, hmade⟩
    · rintro ⟨e, he, hmade⟩
      exact ⟨e, List.mem_cons_of_mem x he, hmade⟩
  | @issued past _ _ moment request owner _ hentitles ih =>
    rw [registered_cons_iff, ← ih]
    constructor
    · rintro ⟨e, he, account, stored, hcall, hsome, hstored, hmade⟩
      rcases List.mem_cons.mp he with rfl | he
      · obtain rfl := Call.grant.inj hcall
        cases hentitles with
        | register hstored' _ =>
          obtain rfl := Except.ok.inj (hstored.symm.trans hstored')
          left
          simp [Entry.registered?, Entry.grant?, hmade]
      · exact Or.inr ⟨e, he, account, stored, hcall, hsome, hstored, hmade⟩
    · rintro (hnew | ⟨e, he, hmade⟩)
      · cases hentitles with
        | login _ _ => cases hnew
        | @register account stored hstored _ =>
          simp only [Entry.registered?, Entry.grant?, Option.map_some, user_newGrant,
            Option.some.injEq] at hnew
          exact ⟨_, List.mem_cons_self, account, stored, rfl, rfl, hstored, hnew.symm⟩
        | refresh _ _ => cases hnew
      · exact ⟨e, List.mem_cons_of_mem _ he, hmade⟩

/-- The users found by id are those that the history created, unchanged. -/
theorem Course.users_get?_iff (h : Course policy past store) (hids : (drawnIds past).Nodup)
    {id : UserId} :
    store.users.get? id = some user ↔ Registered past user ∧ user.id = id := by
  induction h with
  | nil => simp [Registered, Store.empty]
  | idle _ hidle ih =>
    rw [registered_cons_of_none (registered?_of_idle hidle)]
    exact ih (nodup_drawnIds_cons hids).1
  | issued _ hentitles ih =>
    obtain ⟨hpast, hnew⟩ := nodup_drawnIds_cons hids
    rw [users_issue]
    rcases hentitles.accounts rfl with ⟨hnone, husers, _⟩ | ⟨hsome, rfl, _⟩
    · rw [registered_cons_of_none hnone, husers]
      exact ih hpast
    · rw [registered_cons_iff, hsome, Store.enter, Table.get?_insert]
      split
      · next hid =>
        constructor
        · intro heq
          exact ⟨Or.inl heq, by rw [← Option.some.inj heq, hid]⟩
        · rintro ⟨heq | hold, hsame⟩
          · exact heq
          · exact absurd hold.mem_drawnIds (by rw [hsame, hid]; exact hnew _ hsome)
      · next hid =>
        rw [ih hpast]
        constructor
        · rintro ⟨hold, hsame⟩
          exact ⟨Or.inr hold, hsame⟩
        · rintro ⟨heq | hold, hsame⟩
          · exact absurd (by rw [← hsame, Option.some.inj heq]) hid
          · exact ⟨hold, hsame⟩

/-- The ids found by email address are those of the users created with it. -/
theorem Course.byEmail_get?_iff (h : Course policy past store) {email : String} {id : UserId} :
    store.byEmail.get? email = some id ↔
      ∃ user, Registered past user ∧ user.email = email ∧ user.id = id := by
  induction h with
  | nil => simp [Registered, Store.empty]
  | idle _ hidle ih => simpa only [registered_cons_of_none (registered?_of_idle hidle)] using ih
  | @issued _ _ _ _ _ owner _ hentitles ih =>
    rw [byEmail_issue]
    rcases hentitles.accounts rfl with ⟨hnone, _, hbyEmail⟩ | ⟨hsome, rfl, hfree⟩
    · rw [hbyEmail]
      simpa only [registered_cons_of_none hnone] using ih
    · simp only [registered_cons_iff, hsome, Store.enter, Table.get?_insert]
      split
      · next hemail =>
        subst hemail
        constructor
        · intro heq
          exact ⟨owner, Or.inl rfl, rfl, Option.some.inj heq⟩
        · rintro ⟨user, heq | hold, hsame, hid⟩
          · rw [Option.some.inj heq, hid]
          · rw [Table.contains, ih.mpr ⟨user, hold, hsame, hid⟩] at hfree
            cases hfree
      · next hemail =>
        rw [ih]
        constructor
        · rintro ⟨user, hold, hsame, hid⟩
          exact ⟨user, Or.inr hold, hsame, hid⟩
        · rintro ⟨user, heq | hold, hsame, hid⟩
          · exact absurd (by rw [← hsame, Option.some.inj heq]) hemail
          · exact ⟨user, hold, hsame, hid⟩

/-- The user found by an email address is the one that was created with it, up to margins and
ASCII case. -/
theorem Course.userOf_eq_some_iff (h : Course policy past store) (hids : (drawnIds past).Nodup)
    {email : String} :
    store.userOf email = some user ↔
      Registered past user ∧ user.email = normalizeEmail email := by
  have hbind : store.userOf email = some user ↔
      ∃ id, store.byEmail.get? (normalizeEmail email) = some id ∧
        store.users.get? id = some user := Option.bind_eq_some_iff
  rw [hbind]
  constructor
  · rintro ⟨id, hid, huser⟩
    obtain ⟨found, hfound, hemail, hsame⟩ := h.byEmail_get?_iff.mp hid
    have heq := (h.users_get?_iff hids).mpr ⟨hfound, hsame⟩
    rw [huser, Option.some.injEq] at heq
    subst heq
    exact ⟨hfound, hemail⟩
  · rintro ⟨hregistered, hemail⟩
    exact ⟨user.id, h.byEmail_get?_iff.mpr ⟨user, hregistered, hemail, rfl⟩,
      (h.users_get?_iff hids).mpr ⟨hregistered, rfl⟩⟩

/-- A user that is found by an email address stays found. -/
theorem Course.userOf_of_cons {e : Entry} {store' : Store} (h : Course policy past store)
    (h' : Course policy (e :: past) store') (hids : (drawnIds (e :: past)).Nodup)
    (email : String) (user : Identity) (hfound : store.userOf email = some user) :
    store'.userOf email = some user := by
  obtain ⟨hregistered, hemail⟩ :=
    (h.userOf_eq_some_iff (nodup_drawnIds_cons hids).1).mp hfound
  exact (h'.userOf_eq_some_iff hids).mpr ⟨hregistered.cons e, hemail⟩

/-- No two records were made with one id. -/
theorem Course.created_unique {other : Identity} (h : Course policy past store)
    (hids : (drawnIds past).Nodup) (huser : Created policy past user)
    (hother : Created policy past other) (hid : other.id = user.id) : other = user := by
  have hfound := (h.users_get?_iff hids).mpr ⟨h.created_iff.mp huser, rfl⟩
  have hfound' := (h.users_get?_iff hids).mpr ⟨h.created_iff.mp hother, hid⟩
  exact Option.some.inj (hfound'.symm.trans hfound)

/-- Every grant goes to a user that was created. -/
theorem Course.registered_of_granted {later : List Entry} {e : Entry} {g : Grant}
    (h : Course policy past store) (hids : (drawnIds past).Nodup)
    (hgranted : Granted past later e g) : Registered past g.user := by
  induction h generalizing later with
  | nil => exact absurd hgranted not_granted_nil
  | idle _ hidle ih =>
    obtain ⟨_, _, hold⟩ := (granted_cons_of_none hidle).mp hgranted
    exact (ih (nodup_drawnIds_cons hids).1 hold).cons _
  | issued hpast hentitles ih =>
    have hids' := (nodup_drawnIds_cons hids).1
    rcases granted_cons_iff.mp hgranted with ⟨_, _, hgrant⟩ | ⟨_, _, hold⟩
    · cases hgrant
      rw [user_newGrant]
      have hknown := hentitles.known hpast.sound
      rcases hentitles.accounts rfl with ⟨_, husers, _⟩ | ⟨hsome, _, _⟩
      · rw [husers] at hknown
        exact ((hpast.users_get?_iff hids').mp hknown).1.cons _
      · exact registered_cons_iff.mpr (Or.inl hsome)
    · exact (ih hids' hold).cons _

/-- A registration that got a grant created the user with its email address. -/
theorem Course.exists_registered (h : Course policy past store) {e : Entry}
    {account : NewAccount} (he : e ∈ past) (hcall : e.call = .grant (.register account))
    (hsome : e.grant?.isSome = true) :
    ∃ user, Registered past user ∧ user.email = normalizeEmail account.email := by
  induction h with
  | nil => cases he
  | @idle _ _ x _ hidle ih =>
    rcases List.mem_cons.mp he with rfl | he
    · rw [hidle] at hsome
      cases hsome
    · obtain ⟨user, hregistered, hemail⟩ := ih he
      exact ⟨user, hregistered.cons x, hemail⟩
  | @issued _ _ _ moment _ _ _ hentitles ih =>
    rcases List.mem_cons.mp he with rfl | he
    · obtain rfl := Call.grant.inj hcall
      cases hentitles with
      | @register _ stored _ _ =>
        refine ⟨newUser moment account stored, registered_cons_iff.mpr (Or.inl ?_), rfl⟩
        simp [Entry.registered?, Entry.grant?]
    · obtain ⟨user, hregistered, hemail⟩ := ih he
      exact ⟨user, hregistered.cons _, hemail⟩

/-- No two registrations with one email address succeed. -/
theorem Course.registered_once (h : Course policy past store) :
    past.Pairwise fun x earlier => ∀ account other, x.call = .grant (.register account) →
      earlier.call = .grant (.register other) → x.grant?.isSome = true →
      earlier.grant?.isSome = true →
      normalizeEmail account.email ≠ normalizeEmail other.email := by
  induction h with
  | nil => exact List.Pairwise.nil
  | idle _ hidle ih =>
    refine List.Pairwise.cons ?_ ih
    intro y _ account other _ _ hsome _
    rw [hidle] at hsome
    cases hsome
  | issued hpast hentitles ih =>
    refine List.Pairwise.cons ?_ ih
    intro y hy account other hcall hother _ hsome hsame
    obtain rfl := Call.grant.inj hcall
    cases hentitles with
    | register _ hfree =>
      obtain ⟨user, hregistered, hemail⟩ := hpast.exists_registered hy hother hsome
      have htaken := hpast.byEmail_get?_iff.mpr ⟨user, hregistered, hemail, rfl⟩
      rw [hsame, Table.contains, htaken] at hfree
      cases hfree

end

end IdentityGateway.Memory
