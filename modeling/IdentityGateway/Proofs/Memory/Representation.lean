import IdentityGateway.Proofs.Memory.Chains
import IdentityGateway.Proofs.Text.Case

/-!
# How the tables of a core in memory fit together

Whatever calls a fresh core answered, users and email addresses are paired off with each other, and
every token belongs to a user and is of a kind that is handed out. A refresh token names the access
token that it came with. As long as that one is in the table it is of the same user, and no other
refresh token names it. The clock may read anything.
-/

namespace IdentityGateway.Memory

/-- A normal email address is its own normal form. -/
theorem normalizeEmail_normalizeEmail (email : String) :
    normalizeEmail (normalizeEmail email) = normalizeEmail email := by
  have htrimmed := (Text.trimmed_trimChars email.toList).map_toLower
  simp only [normalizeEmail, Text.lowerAscii, Text.trim, String.toList_ofList,
    htrimmed.trimChars_eq, List.map_map]
  congr 2
  funext c
  exact Text.toLower_toLower c

/-! ## Tables that fit together -/

/-- The tables of a store that hands out grants of some mode fit together. -/
structure Store.Consistent (mode : GrantMode) (store : Store) : Prop where
  /-- Users are kept under their own ids. -/
  keyed : ∀ {id user}, store.users.get? id = some user → user.id = id
  /-- An email address leads to an id exactly if it is that of the user with the id. -/
  indexed : ∀ {email id}, store.byEmail.get? email = some id ↔
    ∃ user, store.users.get? id = some user ∧ user.email = email
  /-- There is one entry by email address for each user, and no other. -/
  matched : store.byEmail.entries.Perm (store.users.entries.map fun e => (e.2.email, e.1))
  /-- The email addresses of users are normal. -/
  normal : ∀ {id user}, store.users.get? id = some user → normalizeEmail user.email = user.email
  /-- Something is stored for the password of every user. -/
  hashed : ∀ {id user}, store.users.get? id = some user → user.passwordHash.isSome = true
  /-- Every token belongs to a user. -/
  owned : ∀ {t i}, store.tokens.get? t = some i → ∃ user, store.users.get? i.userId = some user
  /-- Sessions have session tokens only. -/
  sessions : mode = .session → ∀ {t i}, store.tokens.get? t = some i → i.kind = .session
  /-- Pairs have access tokens and refresh tokens only. -/
  pairs : mode = .tokenPair → ∀ {t i}, store.tokens.get? t = some i →
    i.kind = .access ∨ i.kind = .refresh
  /-- The refresh tokens, and no others, name an access token. -/
  named : ∀ {t i}, store.tokens.get? t = some i →
    (i.pairedAccess.isSome = true ↔ i.kind = .refresh)
  /-- A token that is named is an access token of the same user, if it is in the table. -/
  paired : ∀ {t i access j}, store.tokens.get? t = some i → i.pairedAccess = some access →
    store.tokens.get? access = some j → j.kind = .access ∧ j.userId = i.userId
  /-- No two refresh tokens name the same access token. -/
  apart : ∀ {t i t' i' access}, store.tokens.get? t = some i → store.tokens.get? t' = some i' →
    i.pairedAccess = some access → i'.pairedAccess = some access → t = t'

section

variable {policy : Policy} {moment : Moment} {store : Store} {user : Identity}
  {t t' access : String} {i i' j : IssuedToken} {past : List Entry}

/-- The refresh tokens of a grant, and no others, name an access token. -/
theorem isSome_pairedAccess_iff (hmem : (t, i) ∈ newTokens policy moment user) :
    i.pairedAccess.isSome = true ↔ i.kind = .refresh := by
  unfold newTokens at hmem
  cases hmode : policy.mode with
  | session =>
    simp only [hmode, List.mem_singleton, Prod.mk.injEq] at hmem
    simp [hmem.2]
  | tokenPair =>
    simp only [hmode, List.mem_cons, Prod.mk.injEq, List.not_mem_nil, or_false] at hmem
    rcases hmem with ⟨_, rfl⟩ | ⟨_, rfl⟩ <;> simp

/-- The access token that a refresh token names is put into the table with it, for the same
user. -/
theorem exists_access_of_pairedAccess (hmem : (t, i) ∈ newTokens policy moment user)
    (hpaired : i.pairedAccess = some access) : ∃ j, (access, j) ∈ newTokens policy moment user ∧
      j.kind = .access ∧ j.userId = i.userId := by
  unfold newTokens at hmem ⊢
  cases hmode : policy.mode with
  | session =>
    simp only [hmode, List.mem_singleton, Prod.mk.injEq] at hmem
    obtain ⟨rfl, rfl⟩ := hmem
    cases hpaired
  | tokenPair =>
    simp only [hmode, List.mem_cons, Prod.mk.injEq, List.not_mem_nil, or_false] at hmem
    rcases hmem with ⟨rfl, rfl⟩ | ⟨rfl, rfl⟩
    · cases hpaired
    · cases hpaired
      exact ⟨_, List.mem_cons_self, rfl, rfl⟩

/-- A token in the table that another one names came with the same grant. -/
theorem Course.exists_grant_of_pairedAccess (h : Course policy past store)
    (hfresh : (drawnTokens past).Nodup) (hget : store.tokens.get? t = some i)
    (hpaired : i.pairedAccess = some access) : ∃ later e g, Granted past later e g ∧
      (t, i) ∈ newTokens policy e.moment g.user ∧ access ∈ g.tokens ∧
      ∃ j, (access, j) ∈ newTokens policy e.moment g.user ∧ j.kind = .access ∧
        j.userId = i.userId := by
  obtain ⟨later, e, g, hgranted, hmem, _⟩ := (h.tokens_get?_iff hfresh).mp hget
  obtain ⟨j, haccess, hkind, howner⟩ := exists_access_of_pairedAccess hmem hpaired
  exact ⟨later, e, g, hgranted, hmem, h.mem_tokens hgranted haccess, j, haccess, hkind, howner⟩

/-- Among the tokens that a grant puts into the table each is there once. -/
theorem Course.eq_of_mem_newTokens_of_granted {later : List Entry} {e : Entry} {g : Grant}
    (h : Course policy past store) (hfresh : (drawnTokens past).Nodup)
    (hgranted : Granted past later e g) (hmem : (t, i) ∈ newTokens policy e.moment g.user)
    (hmem' : (t, i') ∈ newTokens policy e.moment g.user) : i = i' := by
  have hdistinct := hgranted.nodup_tokens hfresh
  rw [h.grant_eq hgranted, tokens_newGrant] at hdistinct
  exact congrArg Prod.snd (List.inj_on_of_nodup_map hdistinct hmem hmem' rfl)

/-- A token that is named is an access token of the same user, if it is in the table. -/
theorem Course.paired_of_get? (h : Course policy past store) (hfresh : (drawnTokens past).Nodup)
    (hget : store.tokens.get? t = some i) (hpaired : i.pairedAccess = some access)
    (haccess : store.tokens.get? access = some j) : j.kind = .access ∧ j.userId = i.userId := by
  obtain ⟨_, e, g, hgranted, _, hmem, k, hk, hkind, howner⟩ :=
    h.exists_grant_of_pairedAccess hfresh hget hpaired
  obtain ⟨_, e', g', hgranted', hmem', _⟩ := (h.tokens_get?_iff hfresh).mp haccess
  obtain ⟨_, rfl, rfl⟩ := hgranted.unique hfresh hgranted' hmem (h.mem_tokens hgranted' hmem')
  obtain rfl := h.eq_of_mem_newTokens_of_granted hfresh hgranted hk hmem'
  exact ⟨hkind, howner⟩

/-- No two refresh tokens in the table name the same access token. -/
theorem Course.apart_of_get? (h : Course policy past store) (hfresh : (drawnTokens past).Nodup)
    (hget : store.tokens.get? t = some i) (hget' : store.tokens.get? t' = some i')
    (hpaired : i.pairedAccess = some access) (hpaired' : i'.pairedAccess = some access) :
    t = t' := by
  obtain ⟨_, e, g, hgranted, hmem, haccess, _⟩ :=
    h.exists_grant_of_pairedAccess hfresh hget hpaired
  obtain ⟨_, e', g', hgranted', hmem', haccess', _⟩ :=
    h.exists_grant_of_pairedAccess hfresh hget' hpaired'
  obtain ⟨_, rfl, rfl⟩ := hgranted.unique hfresh hgranted' haccess haccess'
  have hkind := (isSome_pairedAccess_iff hmem).mp (by rw [hpaired]; rfl)
  have hkind' := (isSome_pairedAccess_iff hmem').mp (by rw [hpaired']; rfl)
  exact eq_of_mem_newTokens hmem hmem' (hkind.trans hkind'.symm)

/-- An email address leads to an id exactly if it is that of the user with the id. -/
theorem Course.byEmail_get?_iff_users (h : Course policy past store)
    (hids : (drawnIds past).Nodup) {email : String} {id : UserId} :
    store.byEmail.get? email = some id ↔
      ∃ user, store.users.get? id = some user ∧ user.email = email := by
  rw [h.byEmail_get?_iff]
  constructor
  · rintro ⟨user, hregistered, hemail, hid⟩
    exact ⟨user, (h.users_get?_iff hids).mpr ⟨hregistered, hid⟩, hemail⟩
  · rintro ⟨user, hget, hemail⟩
    obtain ⟨hregistered, hid⟩ := (h.users_get?_iff hids).mp hget
    exact ⟨user, hregistered, hemail, hid⟩

/-- The entries by email address are those of the users, one for one. -/
theorem Store.byEmail_perm (hindexed : ∀ {email id}, store.byEmail.get? email = some id ↔
      ∃ user, store.users.get? id = some user ∧ user.email = email) :
    store.byEmail.entries.Perm (store.users.entries.map fun e => (e.2.email, e.1)) := by
  have hbyEmail : store.byEmail.entries.Nodup := .of_map _ store.byEmail.distinct
  have husers : (store.users.entries.map fun e => (e.2.email, e.1)).Nodup := by
    refine .of_map Prod.snd ?_
    rw [List.map_map]
    exact store.users.distinct
  refine (List.perm_ext_iff_of_nodup hbyEmail husers).mpr ?_
  rintro ⟨email, id⟩
  rw [Table.mem_entries_iff, hindexed, List.mem_map]
  constructor
  · rintro ⟨user, hget, rfl⟩
    exact ⟨(id, user), Table.mem_entries_iff.mpr hget, rfl⟩
  · rintro ⟨⟨id', user⟩, hmem, heq⟩
    obtain ⟨rfl, rfl⟩ := Prod.mk.inj heq
    exact ⟨user, Table.mem_entries_iff.mp hmem, rfl⟩

/-- A user in the table is one that a registration made. -/
theorem Course.exists_newUser (h : Course policy past store) (hids : (drawnIds past).Nodup)
    {id : UserId} (hget : store.users.get? id = some user) :
    ∃ moment account stored, user = newUser moment account stored := by
  obtain ⟨hregistered, _⟩ := (h.users_get?_iff hids).mp hget
  obtain ⟨e, _, account, stored, _, _, _, hmade⟩ := h.created_iff.mpr hregistered
  exact ⟨e.moment, account, stored, hmade⟩

/-- **The tables fit together.** After any calls of a fresh core, whatever the clock read, users
and email addresses are paired off with each other, and every token belongs to a user, is of a kind
that is handed out, and names an access token of its own user if it is a refresh token. -/
theorem consistent_of_history (h : (core policy).History .empty past store)
    (hfresh : Fresh past) : store.Consistent policy.mode := by
  have hcourse := course_of_history h
  have hindexed : ∀ {email : String} {id : UserId}, store.byEmail.get? email = some id ↔
      ∃ user, store.users.get? id = some user ∧ user.email = email :=
    hcourse.byEmail_get?_iff_users hfresh.ids
  constructor
  case keyed => exact hcourse.sound.keyed
  case indexed => exact hindexed
  case matched => exact Store.byEmail_perm hindexed
  case normal =>
    intro id user hget
    obtain ⟨moment, account, stored, rfl⟩ := hcourse.exists_newUser hfresh.ids hget
    exact normalizeEmail_normalizeEmail account.email
  case hashed =>
    intro id user hget
    obtain ⟨moment, account, stored, rfl⟩ := hcourse.exists_newUser hfresh.ids hget
    rfl
  case owned => exact hcourse.sound.owned
  case sessions =>
    intro hmode t i hget
    obtain ⟨hkind, _⟩ := hcourse.chain_of_get? hfresh.tokens hget
    rw [Policy.kinds, hmode] at hkind
    exact List.mem_singleton.mp hkind
  case pairs =>
    intro hmode t i hget
    obtain ⟨hkind, _⟩ := hcourse.chain_of_get? hfresh.tokens hget
    rw [Policy.kinds, hmode] at hkind
    simpa using hkind
  case named =>
    intro t i hget
    obtain ⟨_, _, _, _, hmem, _⟩ := (hcourse.tokens_get?_iff hfresh.tokens).mp hget
    exact isSome_pairedAccess_iff hmem
  case paired => exact hcourse.paired_of_get? hfresh.tokens
  case apart => exact hcourse.apart_of_get? hfresh.tokens

end

/-- In the late run the access token that a refresh token names is gone, and the one that the other
names is still there. -/
theorem consistent_instantRun :
    Fresh instantRun.1 ∧ instantRun.2.Consistent .tokenPair ∧
      instantRun.2.tokens.get? "a" = none ∧
      (∃ i, instantRun.2.tokens.get? "b" = some i ∧ i.pairedAccess = some "a") ∧
      ∃ i j, instantRun.2.tokens.get? "bb" = some i ∧ i.pairedAccess = some "aa" ∧
        instantRun.2.tokens.get? "aa" = some j ∧ j.kind = .access ∧ j.userId = i.userId := by
  have hfresh : Fresh instantRun.1 := ⟨by decide, by decide⟩
  have hconsistent : instantRun.2.Consistent .tokenPair :=
    consistent_of_history ((core instantPolicy).history_run .empty instantCalls) hfresh
  have hearlier : instantRun.2.tokens.get? "b" =
      some ⟨.text "u", .refresh, ⟨2592001, 0⟩, some "a"⟩ := by decide
  have hrefresh : instantRun.2.tokens.get? "bb" =
      some ⟨.text "uu", .refresh, ⟨2592002, 0⟩, some "aa"⟩ := by decide
  have haccess : instantRun.2.tokens.get? "aa" =
      some ⟨.text "uu", .access, ⟨2, 0⟩, none⟩ := by decide
  obtain ⟨hkind, howner⟩ := hconsistent.paired hrefresh rfl haccess
  exact ⟨hfresh, hconsistent, by decide, ⟨_, hearlier, rfl⟩, _, _, hrefresh, rfl, haccess, hkind,
    howner⟩

end IdentityGateway.Memory
