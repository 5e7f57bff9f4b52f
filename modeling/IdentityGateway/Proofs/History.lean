import IdentityGateway.Core.Basic
import IdentityGateway.Timestamp.Order

/-!
# Histories of a core

A history lists the calls that were made of a core one after another, latest first, with
their replies. What clients see of a core is its history, so the properties of a core
relate a reply to the history before it.
-/

namespace IdentityGateway

/-- What a core says to a call. -/
inductive Reply where
  | identity (result : LookupResult)
  | grant (result : GrantResult)

/-- A call that was made of a core, with its moment and its reply. -/
structure Entry where
  moment : Moment
  call : Call
  reply : Reply

namespace Grant

/-- The token by which look-ups find the user of a grant, in either form. -/
def accessToken : Grant → String
  | .session s _ => s.token
  | .tokenPair pair => pair.accessToken

/-- The token that a grant may be exchanged by: that of a session, or the refresh token of a
pair. -/
def refreshToken? : Grant → Option String
  | .session s _ => some s.token
  | .tokenPair pair => pair.refreshToken

/-- The tokens that are handed out. -/
def tokens : Grant → List String
  | .session s _ => [s.token]
  | .tokenPair pair => pair.accessToken :: pair.refreshToken.toList

/-- The access token is handed out. -/
theorem accessToken_mem_tokens (g : Grant) : g.accessToken ∈ g.tokens := by
  cases g <;> simp [accessToken, tokens]

/-- The refresh token is handed out. -/
theorem mem_tokens_of_refreshToken? {g : Grant} {token : String}
    (h : g.refreshToken? = some token) : token ∈ g.tokens := by
  cases g with
  | session s user =>
    rw [refreshToken?, Option.some.injEq] at h
    simp [tokens, h]
  | tokenPair pair =>
    rw [refreshToken?] at h
    simp [tokens, h]

end Grant

namespace Entry

/-- The grant that a call was answered with, if it was. -/
def grant? (e : Entry) : Option Grant :=
  match e.reply with
  | .grant (.ok g) => some g
  | _ => none

/-- The tokens that a call handed out. -/
def tokens (e : Entry) : List String :=
  (e.grant?.map Grant.tokens).getD []

/-- The user that a call created. -/
def registered? (e : Entry) : Option Identity :=
  match e.call with
  | .grant (.register _) => e.grant?.map Grant.user
  | _ => none

/-- Whether a call is a successful refresh with a token. -/
def spends (e : Entry) (token : String) : Bool :=
  e.call == .grant (.refresh token) && e.grant?.isSome

end Entry

namespace Core

variable {σ : Type}

/-- What a core says to a call, and its state afterwards. -/
def reply (core : Core σ) (moment : Moment) : Call → σ → Reply × σ
  | .lookup token, s =>
    let (answer, s) := core.lookup moment token s
    (.identity answer.result, s)
  | .grant request, s =>
    let (answer, s) := core.grant moment request s
    (.grant answer.result, s)

/-- The calls that lead a core from one state to another, latest first. -/
inductive History (core : Core σ) (start : σ) : List Entry → σ → Prop where
  | nil : core.History start [] start
  | cons {past : List Entry} {s : σ} (moment : Moment) (call : Call)
      (h : core.History start past s) :
      core.History start (⟨moment, call, (core.reply moment call s).1⟩ :: past)
        (core.reply moment call s).2

/-- Makes a list of calls, latest first, and gives their history and the state afterwards. -/
def run (core : Core σ) (start : σ) : List (Moment × Call) → List Entry × σ
  | [] => ([], start)
  | (moment, call) :: earlier =>
    let (past, s) := core.run start earlier
    let (reply, s) := core.reply moment call s
    (⟨moment, call, reply⟩ :: past, s)

/-- Any calls can be made of a core, and they have a history. -/
theorem history_run (core : Core σ) (start : σ) (calls : List (Moment × Call)) :
    core.History start (core.run start calls).1 (core.run start calls).2 := by
  induction calls with
  | nil => exact .nil
  | cons first earlier ih => exact .cons first.1 first.2 ih

end Core

/-! ## What a history hands out -/

/-- A history hands out a grant in one of its calls, which others may follow. -/
def Granted (past later : List Entry) (e : Entry) (g : Grant) : Prop :=
  ∃ earlier, past = later ++ e :: earlier ∧ e.grant? = some g

/-- A history creates a user. -/
def Registered (past : List Entry) (user : Identity) : Prop :=
  ∃ e ∈ past, e.registered? = some user

/-- The tokens that a history hands out. -/
def drawnTokens (past : List Entry) : List String :=
  past.flatMap Entry.tokens

/-- The ids of the users that a history creates. -/
def drawnIds (past : List Entry) : List UserId :=
  past.filterMap fun e => e.registered?.map (·.id)

/-- Every token and every id that is drawn differs from all that were drawn before. -/
structure Fresh (past : List Entry) : Prop where
  tokens : (drawnTokens past).Nodup
  ids : (drawnIds past).Nodup

/-- No grant of a history came after a time, as is so if the clock never goes back. -/
def NotAhead (past : List Entry) (now : Timestamp) : Prop :=
  ∀ e ∈ past, e.grant?.isSome → e.moment.issuedAt ≤ now

section

variable {x e e' : Entry} {past later later' : List Entry} {g g' : Grant} {token : String}
  {user : Identity}

/-- The latest call hands out its own grant, and every other grant is older. -/
theorem granted_cons_iff : Granted (x :: past) later e g ↔
    (later = [] ∧ e = x ∧ x.grant? = some g) ∨
      ∃ later', later = x :: later' ∧ Granted past later' e g := by
  cases later with
  | nil =>
    simp only [Granted, List.nil_append, List.cons.injEq, true_and]
    constructor
    · rintro ⟨earlier, ⟨rfl, rfl⟩, hgrant⟩
      exact Or.inl ⟨rfl, hgrant⟩
    · rintro (⟨rfl, hgrant⟩ | ⟨later', hlater, _⟩)
      · exact ⟨past, ⟨rfl, rfl⟩, hgrant⟩
      · cases hlater
  | cons y later =>
    simp only [Granted, List.cons_append, List.cons.injEq, reduceCtorEq, false_and, false_or]
    constructor
    · rintro ⟨earlier, ⟨rfl, rfl⟩, hgrant⟩
      exact ⟨later, ⟨rfl, rfl⟩, earlier, rfl, hgrant⟩
    · rintro ⟨later', ⟨rfl, rfl⟩, earlier, rfl, hgrant⟩
      exact ⟨earlier, ⟨rfl, rfl⟩, hgrant⟩

/-- Every grant is older than a call without one. -/
theorem granted_cons_of_none (hnone : x.grant? = none) :
    Granted (x :: past) later e g ↔ ∃ later', later = x :: later' ∧ Granted past later' e g := by
  simp [granted_cons_iff, hnone]

/-- Nothing is handed out before the first call. -/
theorem not_granted_nil : ¬ Granted [] later e g := by
  simp [Granted]

/-- A grant stays handed out. -/
theorem Granted.cons (h : Granted past later e g) (x : Entry) :
    Granted (x :: past) (x :: later) e g :=
  granted_cons_iff.mpr (Or.inr ⟨later, rfl, h⟩)

/-- A grant is the one that its call was answered with. -/
theorem Granted.grant?_eq (h : Granted past later e g) : e.grant? = some g := by
  obtain ⟨_, _, hgrant⟩ := h
  exact hgrant

/-- The call that handed out a grant is in the history. -/
theorem Granted.mem (h : Granted past later e g) : e ∈ past := by
  obtain ⟨earlier, rfl, _⟩ := h
  simp

/-- The calls after a grant are in the history. -/
theorem Granted.mem_of_later (h : Granted past later e g) (hx : x ∈ later) : x ∈ past := by
  obtain ⟨earlier, rfl, _⟩ := h
  exact List.mem_append_left _ hx

/-- The tokens of a call that got a grant are those of the grant. -/
theorem Entry.tokens_eq (h : e.grant? = some g) : e.tokens = g.tokens := by
  simp [Entry.tokens, h]

/-- A call without a grant hands out no token. -/
theorem Entry.tokens_eq_nil (h : e.grant? = none) : e.tokens = [] := by
  simp [Entry.tokens, h]

/-- What a call of a history handed out counts as drawn in it. -/
theorem Granted.mem_drawnTokens (h : Granted past later e g) (htoken : token ∈ g.tokens) :
    token ∈ drawnTokens past := by
  exact List.mem_flatMap.mpr ⟨e, h.mem, by rwa [Entry.tokens_eq h.grant?_eq]⟩

/-- The tokens drawn before the latest call are distinct, and none is drawn again by it. -/
theorem nodup_drawnTokens_cons (h : (drawnTokens (x :: past)).Nodup) :
    (drawnTokens past).Nodup ∧ x.tokens.Nodup ∧ ∀ t ∈ x.tokens, t ∉ drawnTokens past := by
  rw [drawnTokens, List.flatMap_cons, List.nodup_append] at h
  exact ⟨h.2.1, h.1, fun t hx hpast => h.2.2 t hx t hpast rfl⟩

/-- Where no token is drawn twice, no grant hands one out twice. -/
theorem Granted.nodup_tokens (hfresh : (drawnTokens past).Nodup) (h : Granted past later e g) :
    g.tokens.Nodup := by
  obtain ⟨earlier, rfl, hgrant⟩ := h
  rw [drawnTokens, List.flatMap_append] at hfresh
  have hdistinct := (nodup_drawnTokens_cons (List.nodup_append.mp hfresh).2.1).2.1
  rwa [Entry.tokens_eq hgrant] at hdistinct

/-- A token belongs to one grant only. -/
theorem Granted.unique (hfresh : (drawnTokens past).Nodup) (h : Granted past later e g)
    (h' : Granted past later' e' g') (htoken : token ∈ g.tokens) (htoken' : token ∈ g'.tokens) :
    later = later' ∧ e = e' ∧ g = g' := by
  induction past generalizing later later' with
  | nil => exact absurd h not_granted_nil
  | cons x past ih =>
    obtain ⟨hpast, _, hnew⟩ := nodup_drawnTokens_cons hfresh
    rcases granted_cons_iff.mp h with ⟨rfl, rfl, hg⟩ | ⟨older, rfl, hold⟩ <;>
      rcases granted_cons_iff.mp h' with ⟨rfl, rfl, hg'⟩ | ⟨older', rfl, hold'⟩
    · exact ⟨rfl, rfl, Option.some.inj (hg.symm.trans hg')⟩
    · exact absurd (hold'.mem_drawnTokens htoken')
        (hnew token (by rwa [Entry.tokens_eq hg]))
    · exact absurd (hold.mem_drawnTokens htoken)
        (hnew token (by rwa [Entry.tokens_eq hg']))
    · obtain ⟨rfl, rfl, rfl⟩ := ih hpast hold hold'
      exact ⟨rfl, rfl, rfl⟩

/-- Of two grants, one came after the other unless they are the same. -/
theorem Granted.same_or_later (h : Granted past later e g) (h' : Granted past later' e' g') :
    (later = later' ∧ e = e' ∧ g = g') ∨ e ∈ later' ∨ e' ∈ later := by
  induction past generalizing later later' with
  | nil => exact absurd h not_granted_nil
  | cons x past ih =>
    rcases granted_cons_iff.mp h with ⟨rfl, rfl, hg⟩ | ⟨older, rfl, hold⟩ <;>
      rcases granted_cons_iff.mp h' with ⟨rfl, rfl, hg'⟩ | ⟨older', rfl, hold'⟩
    · exact Or.inl ⟨rfl, rfl, Option.some.inj (hg.symm.trans hg')⟩
    · exact Or.inr (Or.inl List.mem_cons_self)
    · exact Or.inr (Or.inr List.mem_cons_self)
    · rcases ih hold hold' with ⟨rfl, rfl, rfl⟩ | hlater | hlater
      · exact Or.inl ⟨rfl, rfl, rfl⟩
      · exact Or.inr (Or.inl (List.mem_cons_of_mem x hlater))
      · exact Or.inr (Or.inr (List.mem_cons_of_mem x hlater))

/-- A request that got a grant spends a token exactly if it is a refresh with it. -/
theorem Entry.spends_granted_iff {moment : Moment} {request : GrantRequest} :
    (⟨moment, .grant request, .grant (.ok g)⟩ : Entry).spends token = true ↔
      request = .refresh token := by
  simp [Entry.spends, Entry.grant?]

/-- A call without a grant spends no token. -/
theorem Entry.spends_eq_false (h : e.grant? = none) : e.spends token = false := by
  simp [Entry.spends, h]

/-- A user stays created. -/
theorem Registered.cons (h : Registered past user) (x : Entry) : Registered (x :: past) user := by
  obtain ⟨e, he, hnew⟩ := h
  exact ⟨e, List.mem_cons_of_mem x he, hnew⟩

/-- The latest call creates its own user, and every other user is older. -/
theorem registered_cons_iff :
    Registered (x :: past) user ↔ x.registered? = some user ∨ Registered past user := by
  simp [Registered]

/-- The ids of created users are drawn in the history. -/
theorem Registered.mem_drawnIds (h : Registered past user) : user.id ∈ drawnIds past := by
  obtain ⟨e, he, hnew⟩ := h
  exact List.mem_filterMap.mpr ⟨e, he, by simp [hnew]⟩

/-- The latest call creates no user if its reply does not say so. -/
theorem registered_cons_of_none (hnone : x.registered? = none) :
    Registered (x :: past) user ↔ Registered past user := by
  rw [registered_cons_iff, hnone]
  simp

/-- The ids drawn before the latest call are distinct, and none is drawn again by it. -/
theorem nodup_drawnIds_cons (h : (drawnIds (x :: past)).Nodup) :
    (drawnIds past).Nodup ∧ ∀ u, x.registered? = some u → u.id ∉ drawnIds past := by
  rw [drawnIds, List.filterMap_cons] at h
  cases hnew : x.registered? with
  | none =>
    rw [hnew] at h
    exact ⟨h, fun u hu => by cases hu⟩
  | some new =>
    rw [hnew] at h
    obtain ⟨hmem, hpast⟩ := List.nodup_cons.mp h
    exact ⟨hpast, fun u hu => Option.some.inj hu ▸ hmem⟩

/-- What was drawn before the latest call is fresh. -/
theorem Fresh.tail (h : Fresh (x :: past)) : Fresh past :=
  ⟨(nodup_drawnTokens_cons h.tokens).1, (nodup_drawnIds_cons h.ids).1⟩

end

end IdentityGateway
