import IdentityGateway.Proofs.Memory.Course

/-!
# The steps of a call to a core in memory

A call is made of steps, some of which hold the lock of the store. A login looks for its user
in one step under the lock, checks the password without it, and is issued a grant in another
step; a registration hashes the password before its only step under the lock. Whatever
happened to the store in between, the last step under the lock answers a call as the core would
answer it then.
-/

namespace IdentityGateway.Memory

/-- How far a call has come. -/
inductive Stage where
  /-- The call was made. -/
  | called (call : Call)
  /-- A login has looked for its user, and has the password to check. -/
  | found (candidate : Option Identity) (password : String)
  /-- A login has checked the password. -/
  | admitted (user : Identity)
  /-- A registration has hashed the password. -/
  | hashed (account : NewAccount) (stored : String)
  /-- The call was answered. -/
  | replied (reply : Reply)

namespace Stage

/-- The next step of a call: the stage that it comes to, and the store afterwards. -/
def next (policy : Policy) (moment : Moment) (store : Store) : Stage → Stage × Store
  | .called (.lookup token) =>
    (.replied (.identity (.ok (store.identityOf moment.now token))), store)
  | .called (.grant (.login email password)) => (.found (store.userOf email) password, store)
  | .called (.grant (.register account)) =>
    match storedPassword policy moment account.password with
    | .error failure => (.replied (.grant (.error failure)), store)
    | .ok stored => (.hashed account stored, store)
  | .called (.grant (.refresh token)) =>
    let (result, store) := exchange policy moment token store
    (.replied (.grant result), store)
  | .found candidate password =>
    match candidate.filter fun u => passwordFits policy u password with
    | none => (.replied (.grant (.error .invalidCredentials)), store)
    | some user => (.admitted user, store)
  | .admitted user =>
    let (grant, store) := issue policy moment user store
    (.replied (.grant (.ok grant)), store)
  | .hashed account stored =>
    let (result, store) := enroll policy moment (newUser moment account stored) store
    (.replied (.grant result), store)
  | .replied reply => (.replied reply, store)

/-- Whether the next step of a call holds the lock. -/
def locks : Stage → Bool
  | .called (.grant (.register _)) => false
  | .called _ => true
  | .found _ _ => false
  | .admitted _ => true
  | .hashed _ _ => true
  | .replied _ => false

/-- The reply of a call that will not hold the lock again. -/
def outcome (policy : Policy) : Stage → Option Reply
  | .found candidate password =>
    match candidate.filter fun u => passwordFits policy u password with
    | none => some (.grant (.error .invalidCredentials))
    | some _ => none
  | .replied reply => some reply
  | _ => none

/-- Whether a call has yet to hold the lock for the first time. -/
def isEarly : Stage → Bool
  | .called _ => true
  | .hashed _ _ => true
  | _ => false

/-- The number of steps that a call has left at most. -/
def stepsLeft : Stage → Nat
  | .called _ => 3
  | .found _ _ => 2
  | .admitted _ => 1
  | .hashed _ _ => 1
  | .replied _ => 0

/-- A call came to a stage, and the user that it found is still the one to be found. -/
inductive Valid (policy : Policy) (moment : Moment) (store : Store) : Call → Stage → Prop where
  | called {call : Call} : Valid policy moment store call (.called call)
  | found {email password : String} {candidate : Option Identity}
      (hright : ∀ user, candidate = some user → store.userOf email = some user) :
      Valid policy moment store (.grant (.login email password)) (.found candidate password)
  | admitted {email password : String} {user : Identity}
      (hright : store.userOf email = some user)
      (hfits : passwordFits policy user password = true) :
      Valid policy moment store (.grant (.login email password)) (.admitted user)
  | hashed {account : NewAccount} {stored : String}
      (hstored : storedPassword policy moment account.password = .ok stored) :
      Valid policy moment store (.grant (.register account)) (.hashed account stored)
  | replied {call : Call} {reply : Reply} : Valid policy moment store call (.replied reply)

/-- What a step of a call may do. -/
inductive Move (policy : Policy) (moment : Moment) (store : Store) : Stage → Stage → Store → Prop
    where
  /-- The call holds the lock for the last time, and is answered as the core answers it. -/
  | answer {s : Stage} {reply : Reply} {after : Store} (hlocks : s.locks = true)
      (hreply : ∀ call, s.Valid policy moment store call →
        (core policy).reply moment call store = (reply, after)) :
      Move policy moment store s (.replied reply) after
  /-- A login looks for its user. -/
  | look {email password : String} :
      Move policy moment store (.called (.grant (.login email password)))
        (.found (store.userOf email) password) store
  /-- The password of a login does not fit, or no user was found. -/
  | refuse {candidate : Option Identity} {password : String}
      (hunfit : (candidate.filter fun u => passwordFits policy u password) = none) :
      Move policy moment store (.found candidate password)
        (.replied (.grant (.error .invalidCredentials))) store
  /-- The password of a login fits. -/
  | accept {candidate : Option Identity} {password : String} {user : Identity}
      (hfit : (candidate.filter fun u => passwordFits policy u password) = some user) :
      Move policy moment store (.found candidate password) (.admitted user) store
  /-- A registration hashes the password. -/
  | hash {account : NewAccount} {stored : String}
      (hstored : storedPassword policy moment account.password = .ok stored) :
      Move policy moment store (.called (.grant (.register account))) (.hashed account stored)
        store
  /-- A registration cannot hash the password. -/
  | fail {account : NewAccount} {failure : CoreFailure}
      (hstored : storedPassword policy moment account.password = .error failure) :
      Move policy moment store (.called (.grant (.register account)))
        (.replied (.grant (.error failure))) store
  /-- The call was answered before. -/
  | rest {reply : Reply} : Move policy moment store (.replied reply) (.replied reply) store

section

variable {policy : Policy} {moment : Moment} {store store' after : Store} {call : Call}
  {s s' : Stage} {reply : Reply}

/-! ## What a step does -/

/-- Every step is one of the moves. -/
theorem move (policy : Policy) (moment : Moment) (store : Store) (s : Stage) :
    Move policy moment store s (s.next policy moment store).1 (s.next policy moment store).2 := by
  cases s with
  | called call =>
    cases call with
    | lookup token =>
      refine .answer rfl fun call hvalid => ?_
      cases hvalid with
      | called => rfl
    | grant request =>
      cases request with
      | login email password => exact .look
      | register account =>
        cases hstored : storedPassword policy moment account.password with
        | error failure =>
          simp only [next, hstored]
          exact .fail hstored
        | ok stored =>
          simp only [next, hstored]
          exact .hash hstored
      | refresh token =>
        refine .answer rfl fun call hvalid => ?_
        cases hvalid with
        | called => rfl
  | found candidate password =>
    cases hfit : candidate.filter fun u => passwordFits policy u password with
    | none =>
      simp only [next, hfit]
      exact .refuse hfit
    | some user =>
      simp only [next, hfit]
      exact .accept hfit
  | admitted user =>
    refine .answer rfl fun call hvalid => ?_
    cases hvalid with
    | @admitted email password _ hright hfits =>
      have hfound : ((store.userOf email).filter fun u => passwordFits policy u password) =
          some user := Option.filter_eq_some_iff.mpr ⟨hright, hfits⟩
      rw [reply_grant, grant, login, hfound]
      rfl
  | hashed account stored =>
    refine .answer rfl fun call hvalid => ?_
    cases hvalid with
    | hashed hstored =>
      rw [reply_grant, grant, register, hstored]
      rfl
  | replied reply => exact .rest

/-- A call comes to a stage that it can come to. -/
theorem Move.valid (h : Move policy moment store s s' after)
    (hvalid : s.Valid policy moment store call) : s'.Valid policy moment after call := by
  cases h with
  | look =>
    cases hvalid with
    | called => exact .found fun _ hfound => hfound
  | accept hfit =>
    obtain ⟨hfound, hfits⟩ := Option.filter_eq_some_iff.mp hfit
    cases hvalid with
    | found hright => exact .admitted (hright _ hfound) hfits
  | hash hstored =>
    cases hvalid with
    | called => exact .hashed hstored
  | _ => exact .replied

/-- A stage stays good as long as the users that are found stay the same. -/
theorem Valid.mono (h : s.Valid policy moment store call)
    (hkept : ∀ email user, store.userOf email = some user → store'.userOf email = some user) :
    s.Valid policy moment store' call := by
  cases h with
  | called => exact .called
  | found hright => exact .found fun user hfound => hkept _ _ (hright user hfound)
  | admitted hright hfits => exact .admitted (hkept _ _ hright) hfits
  | hashed hstored => exact .hashed hstored
  | replied => exact .replied

/-- A step gets a call closer to its reply. -/
theorem Move.stepsLeft_le (h : Move policy moment store s s' after) :
    s'.stepsLeft ≤ s.stepsLeft - 1 := by
  cases h with
  | look => exact Nat.le_refl 2
  | accept _ => exact Nat.le_refl 1
  | hash _ => exact Nat.le_succ 1
  | _ => exact Nat.zero_le _

/-- A call that is early did not hold the lock in its last step either. -/
theorem Move.isEarly_of_isEarly (h : Move policy moment store s s' after)
    (hearly : s'.isEarly = true) : s.isEarly = true ∧ s.locks = false := by
  cases h with
  | hash _ => exact ⟨rfl, rfl⟩
  | _ => cases hearly

/-- A call that holds the lock has no outcome yet. -/
theorem outcome_of_locks (hlocks : s.locks = true) : s.outcome policy = none := by
  cases s with
  | found _ _ => cases hlocks
  | replied _ => cases hlocks
  | _ => rfl

/-- A step that does not hold the lock leaves the store alone, and it settles no call that
held the lock before. -/
theorem Move.unlocked (h : Move policy moment store s s' after) (hlocks : s.locks = false) :
    after = store ∧ (s.isEarly = false → s'.outcome policy = s.outcome policy) := by
  cases h with
  | answer hheld _ =>
    rw [hheld] at hlocks
    cases hlocks
  | look => cases hlocks
  | refuse hunfit => exact ⟨rfl, fun _ => by simp only [outcome, hunfit]⟩
  | accept hfit => exact ⟨rfl, fun _ => by simp only [outcome, hfit]⟩
  | hash _ => exact ⟨rfl, fun hearly => by cases hearly⟩
  | fail _ => exact ⟨rfl, fun hearly => by cases hearly⟩
  | rest => exact ⟨rfl, fun _ => rfl⟩

/-- A step that holds the lock leaves the store alone, or it settles the call as the core
answers it. -/
theorem Move.locked (h : Move policy moment store s s' after) (hlocks : s.locks = true)
    (hvalid : s.Valid policy moment store call) :
    (s'.outcome policy = none ∧ after = store) ∨
      ∃ reply, s'.outcome policy = some reply ∧
        (core policy).reply moment call store = (reply, after) := by
  cases h with
  | answer _ hreply => exact Or.inr ⟨_, rfl, hreply call hvalid⟩
  | @look email password =>
    cases hvalid with
    | called =>
      cases hfit : (store.userOf email).filter fun u => passwordFits policy u password with
      | none =>
        refine Or.inr ⟨.grant (.error .invalidCredentials), by simp only [outcome, hfit], ?_⟩
        rw [reply_grant, grant, login, hfit]
      | some user => exact Or.inl ⟨by simp only [outcome, hfit], rfl⟩
  | _ => cases hlocks

/-- An early call that is no longer so without the lock is refused, and alike on every
store. -/
theorem Move.refused_of_isEarly (h : Move policy moment store s s' after)
    (hearly : s.isEarly = true) (hlocks : s.locks = false) (hlate : s'.isEarly = false)
    (hvalid : s.Valid policy moment store call) :
    ∃ failure, s' = .replied (.grant (.error failure)) ∧
      ∀ other, (core policy).reply moment call other = (.grant (.error failure), other) := by
  cases h with
  | answer hheld _ =>
    rw [hheld] at hlocks
    cases hlocks
  | hash _ => cases hlate
  | fail hstored =>
    cases hvalid with
    | called =>
      refine ⟨_, rfl, fun other => ?_⟩
      rw [reply_grant, grant, register, hstored]
  | look => cases hlocks
  | _ => cases hearly

end

end Stage

end IdentityGateway.Memory
