import IdentityGateway.Proofs.Memory.Refresh
import Mathlib.Data.List.Nodup
import Mathlib.Data.List.ProdSigma

/-!
# Chains of grants in a core in memory

A registration or a login starts a chain of grants, and a refresh goes on with the chain of
the token that it spends. The table holds tokens of the latest grant of a chain only, so it
does not grow with the refreshes. The clock may read anything.
-/

namespace IdentityGateway

/-- Whether a call starts a chain: it got a grant, and did not spend a token for it. -/
def Entry.isRoot (e : Entry) : Bool :=
  match e.call with
  | .grant (.refresh _) => false
  | _ => e.grant?.isSome

/-- The chain that a token belongs to. Chains are numbered in the order of their starts. -/
def chainOf : List Entry → String → Option Nat
  | [], _ => none
  | e :: past, token =>
    if token ∈ e.tokens then
      match e.call with
      | .grant (.refresh used) => chainOf past used
      | _ => some (past.countP Entry.isRoot)
    else chainOf past token

namespace Memory

/-- The kinds of token that are handed out. -/
def Policy.kinds (policy : Policy) : List TokenKind :=
  match policy.mode with
  | .session => [.session]
  | .tokenPair => [.access, .refresh]

/-- The table of a store holds, of the chains of a history, no more than their ends. -/
structure Chained (policy : Policy) (past : List Entry) (store : Store) : Prop where
  /-- A token in the table belongs to the chain of a root, and is of a kind that is handed
  out. -/
  placed : ∀ {t i}, store.tokens.get? t = some i → i.kind ∈ policy.kinds ∧
    ∃ chain < past.countP Entry.isRoot, chainOf past t = some chain
  /-- A chain has at most one token of each kind in the table. -/
  single : ∀ {t i t' i'}, store.tokens.get? t = some i → store.tokens.get? t' = some i' →
    chainOf past t = chainOf past t' → i.kind = i'.kind → t = t'
  /-- A token in the table came with the latest grant of its chain. -/
  latest : ∀ {t i}, store.tokens.get? t = some i → ∃ later e g, Granted past later e g ∧
    t ∈ g.tokens ∧ ∀ x ∈ later, ∀ t' ∈ x.tokens, chainOf past t' ≠ chainOf past t
  /-- A token from before the latest grant of its chain is good for nothing. -/
  retired : ∀ {later e g t x t'}, Granted past later e g → t ∈ g.tokens → x ∈ later →
    t' ∈ x.tokens → chainOf past t' = chainOf past t → ∀ moment,
      ((core policy).lookup moment t store).1.result = .ok none ∧
        ((core policy).grant moment (.refresh t) store).1.result = .error .invalidCredentials
  /-- The table holds at most two tokens for each root. -/
  bounded : store.tokens.size ≤ 2 * past.countP Entry.isRoot
  /-- Right after an issue the tokens in the table are its own or good at its time. -/
  pruned : ∀ {e earlier t i}, past = e :: earlier → e.grant?.isSome = true →
    store.tokens.get? t = some i → t ∈ e.tokens ∨ i.isLive e.moment.issuedAt = true

section

variable {policy : Policy} {moment : Moment} {store before : Store} {user : Identity}
  {request : GrantRequest} {token t t' : String} {issued i i' : IssuedToken}
  {past later later' : List Entry} {x e e' : Entry} {g g' : Grant} {chain : Nat}

/-- A token that the latest call did not hand out belongs to the chain that it was in. -/
theorem chainOf_cons_of_not_mem (ht : t ∉ x.tokens) : chainOf (x :: past) t = chainOf past t := by
  rw [chainOf, if_neg ht]

/-- The tokens of a refresh belong to the chain of the token that it spends. -/
theorem chainOf_cons_of_spends (ht : t ∈ x.tokens) (hspends : x.spends token = true) :
    chainOf (x :: past) t = chainOf past token := by
  simp only [Entry.spends, Bool.and_eq_true, beq_iff_eq] at hspends
  rw [chainOf, if_pos ht, hspends.1]

/-- The tokens of a root belong to a new chain. -/
theorem chainOf_cons_of_isRoot (ht : t ∈ x.tokens) (hroot : x.isRoot = true) :
    chainOf (x :: past) t = some (past.countP Entry.isRoot) := by
  rw [chainOf, if_pos ht]
  unfold Entry.isRoot at hroot
  split
  · next hcall =>
    rw [hcall] at hroot
    cases hroot
  · rfl

/-- A call that hands out tokens is a root, or it is a refresh. -/
theorem isRoot_or_spends (ht : t ∈ x.tokens) :
    x.isRoot = true ∨ ∃ used, x.spends used = true := by
  have hsome : x.grant?.isSome = true := by
    cases hgrant : x.grant? with
    | none =>
      rw [Entry.tokens_eq_nil hgrant] at ht
      cases ht
    | some _ => rfl
  unfold Entry.isRoot Entry.spends
  split
  · next used hcall => exact Or.inr ⟨used, by simp [hcall, hsome]⟩
  · exact Or.inl hsome

/-- The chains are those of the roots. -/
theorem chainOf_lt (h : chainOf past t = some chain) : chain < past.countP Entry.isRoot := by
  induction past generalizing t with
  | nil => cases h
  | cons x past ih =>
    have hle : past.countP Entry.isRoot ≤ (x :: past).countP Entry.isRoot :=
      (List.sublist_cons_self x past).countP_le
    by_cases ht : t ∈ x.tokens
    · rcases isRoot_or_spends ht with hroot | ⟨used, hspends⟩
      · rw [chainOf_cons_of_isRoot ht hroot, Option.some.injEq] at h
        rw [List.countP_cons_of_pos hroot]
        omega
      · rw [chainOf_cons_of_spends ht hspends] at h
        exact Nat.lt_of_lt_of_le (ih h) hle
    · rw [chainOf_cons_of_not_mem ht] at h
      exact Nat.lt_of_lt_of_le (ih h) hle

/-- Every token that was drawn belongs to a chain. -/
theorem Course.exists_chainOf (h : Course policy past store) (hfresh : (drawnTokens past).Nodup)
    (ht : t ∈ drawnTokens past) : ∃ chain, chainOf past t = some chain := by
  induction h generalizing t with
  | nil => cases ht
  | @idle past _ x _ hidle ih =>
    have hnone := Entry.tokens_eq_nil hidle
    rw [drawnTokens, List.flatMap_cons, hnone] at ht
    rw [chainOf_cons_of_not_mem (by simp [hnone])]
    exact ih (nodup_drawnTokens_cons hfresh).1 ht
  | @issued past store before moment request user hpast hentitles ih =>
    have hfreshPast := (nodup_drawnTokens_cons hfresh).1
    by_cases hnew : t ∈ Entry.tokens
        ⟨moment, .grant request, .grant (.ok (newGrant policy moment user))⟩
    · rcases isRoot_or_spends hnew with hroot | ⟨used, hspends⟩
      · exact ⟨_, chainOf_cons_of_isRoot hnew hroot⟩
      · rw [chainOf_cons_of_spends hnew hspends]
        obtain ⟨_, hstanding, _⟩ := hentitles.standing_of_spends hpast hfreshPast hspends
        exact ih hfreshPast (hpast.mem_drawnTokens hstanding)
    · rw [chainOf_cons_of_not_mem hnew]
      exact ih hfreshPast ((List.mem_append.mp ht).resolve_left hnew)

/-- A chain goes on after a grant only by a refresh of the grant. -/
theorem Course.spent_of_continued (h : Course policy past store)
    (hfresh : (drawnTokens past).Nodup) (hgranted : Granted past later e g) (ht : t ∈ g.tokens)
    (hx : x ∈ later) (ht' : t' ∈ x.tokens) (hchain : chainOf past t' = chainOf past t) :
    ∃ y ∈ later, ∃ used, g.refreshToken? = some used ∧ y.spends used = true := by
  induction h generalizing later e g t x t' with
  | nil => exact absurd hgranted not_granted_nil
  | @idle past _ z _ hidle ih =>
    have hnone := Entry.tokens_eq_nil hidle
    have hkept : ∀ t, chainOf (z :: past) t = chainOf past t := fun t =>
      chainOf_cons_of_not_mem (by simp [hnone])
    rw [hkept, hkept] at hchain
    obtain ⟨older, rfl, hold⟩ := (granted_cons_of_none hidle).mp hgranted
    rcases List.mem_cons.mp hx with rfl | hx
    · rw [hnone] at ht'
      cases ht'
    · obtain ⟨y, hy, hspent⟩ := ih (nodup_drawnTokens_cons hfresh).1 hold ht hx ht' hchain
      exact ⟨y, List.mem_cons_of_mem _ hy, hspent⟩
  | @issued past store before moment request user hpast hentitles ih =>
    obtain ⟨hfreshPast, _, hnew⟩ := nodup_drawnTokens_cons hfresh
    rcases granted_cons_iff.mp hgranted with ⟨rfl, _, _⟩ | ⟨older, rfl, hold⟩
    · cases hx
    · have hdrawn := hold.mem_drawnTokens ht
      rw [chainOf_cons_of_not_mem fun hmem => hnew t hmem hdrawn] at hchain
      rcases List.mem_cons.mp hx with rfl | hx
      · rcases isRoot_or_spends ht' with hroot | ⟨used, hspends⟩
        · -- a new chain is no chain that a token was in before
          rw [chainOf_cons_of_isRoot ht' hroot] at hchain
          exact absurd (chainOf_lt hchain.symm) (Nat.lt_irrefl _)
        · rw [chainOf_cons_of_spends ht' hspends] at hchain
          obtain ⟨_, ⟨later', e', g', hgranted', hmem, hspares⟩, hkind⟩ :=
            hentitles.standing_of_spends hpast hfreshPast hspends
          have hused := hpast.refreshToken?_eq hgranted' hmem hkind
          have hmem' := Grant.mem_tokens_of_refreshToken? hused
          rcases hold.same_or_later hgranted' with ⟨_, _, rfl⟩ | hlater | hlater
          · exact ⟨_, List.mem_cons_self, used, hused, hspends⟩
          · -- the grant came after the one that is refreshed, which was refreshed before then
            obtain ⟨y, hy, used', hused', hspent⟩ := ih hfreshPast hgranted' hmem' hlater
              (by rwa [Entry.tokens_eq hold.grant?_eq]) hchain.symm
            rw [(hspares y hy).unspent hused'] at hspent
            cases hspent
          · obtain ⟨y, hy, hspent⟩ := ih hfreshPast hold ht hlater
              (by rwa [Entry.tokens_eq hgranted'.grant?_eq]) hchain
            exact ⟨y, List.mem_cons_of_mem _ hy, hspent⟩
      · have hdrawn' : t' ∈ drawnTokens past :=
          List.mem_flatMap.mpr ⟨x, hold.mem_of_later hx, ht'⟩
        rw [chainOf_cons_of_not_mem fun hmem => hnew t' hmem hdrawn'] at hchain
        obtain ⟨y, hy, hspent⟩ := ih hfreshPast hold ht hx ht' hchain
        exact ⟨y, List.mem_cons_of_mem _ hy, hspent⟩

/-- A token that stands came with the latest grant of its chain. -/
theorem Course.latest_of_standing (h : Course policy past store)
    (hfresh : (drawnTokens past).Nodup) (hstanding : Standing policy past t i) :
    ∃ later e g, Granted past later e g ∧ (t, i) ∈ newTokens policy e.moment g.user ∧
      t ∈ e.tokens ∧ ∀ x ∈ later, ∀ t' ∈ x.tokens, chainOf past t' ≠ chainOf past t := by
  obtain ⟨later, e, g, hgranted, hmem, hspares⟩ := hstanding
  have ht := h.mem_tokens hgranted hmem
  refine ⟨later, e, g, hgranted, hmem, by rwa [Entry.tokens_eq hgranted.grant?_eq], ?_⟩
  intro x hx t' ht' hchain
  obtain ⟨y, hy, used, hused, hspent⟩ := h.spent_of_continued hfresh hgranted ht hx ht' hchain
  rw [(hspares y hy).unspent hused] at hspent
  cases hspent

/-- No two tokens of one kind that a grant puts into the table differ. -/
theorem eq_of_mem_newTokens (hmem : (t, i) ∈ newTokens policy moment user)
    (hmem' : (t', i') ∈ newTokens policy moment user) (hkind : i.kind = i'.kind) : t = t' := by
  unfold newTokens at hmem hmem'
  cases hmode : policy.mode with
  | session =>
    simp only [hmode, List.mem_singleton, Prod.mk.injEq] at hmem hmem'
    rw [hmem.1, hmem'.1]
  | tokenPair =>
    simp only [hmode, List.mem_cons, Prod.mk.injEq, List.not_mem_nil, or_false] at hmem hmem'
    rcases hmem with ⟨rfl, rfl⟩ | ⟨rfl, rfl⟩ <;> rcases hmem' with ⟨rfl, rfl⟩ | ⟨rfl, rfl⟩
    · rfl
    · cases hkind
    · cases hkind
    · rfl

/-- The tokens that a grant puts into the table are of the kinds that are handed out. -/
theorem kind_of_mem_newTokens (hmem : (t, i) ∈ newTokens policy moment user) :
    i.kind ∈ policy.kinds := by
  unfold newTokens at hmem
  unfold Policy.kinds
  cases hmode : policy.mode with
  | session =>
    simp only [hmode, List.mem_singleton, Prod.mk.injEq] at hmem
    simp [hmem.2]
  | tokenPair =>
    simp only [hmode, List.mem_cons, Prod.mk.injEq, List.not_mem_nil, or_false] at hmem
    rcases hmem with ⟨_, rfl⟩ | ⟨_, rfl⟩ <;> simp

/-- At most two kinds of token are handed out. -/
theorem length_kinds_le : policy.kinds.length ≤ 2 := by
  unfold Policy.kinds
  cases policy.mode <;> decide

/-- A chain has at most one token of each kind in the table. -/
theorem Course.single_token (h : Course policy past store) (hfresh : (drawnTokens past).Nodup)
    (hget : store.tokens.get? t = some i) (hget' : store.tokens.get? t' = some i')
    (hchain : chainOf past t = chainOf past t') (hkind : i.kind = i'.kind) : t = t' := by
  obtain ⟨later, e, g, hgranted, hmem, ht, hlatest⟩ :=
    h.latest_of_standing hfresh ((h.tokens_get?_iff hfresh).mp hget)
  obtain ⟨later', e', g', hgranted', hmem', ht', hlatest'⟩ :=
    h.latest_of_standing hfresh ((h.tokens_get?_iff hfresh).mp hget')
  rcases hgranted.same_or_later hgranted' with ⟨_, rfl, rfl⟩ | hlater | hlater
  · exact eq_of_mem_newTokens hmem hmem' hkind
  · exact absurd hchain (hlatest' e hlater t ht)
  · exact absurd hchain.symm (hlatest e' hlater t' ht')

/-- A token is gone once its chain went on after it. -/
theorem Course.get?_of_continued (h : Course policy past store)
    (hfresh : (drawnTokens past).Nodup) (hgranted : Granted past later e g) (ht : t ∈ g.tokens)
    (hx : x ∈ later) (ht' : t' ∈ x.tokens) (hchain : chainOf past t' = chainOf past t) :
    store.tokens.get? t = none := by
  cases hget : store.tokens.get? t with
  | none => rfl
  | some i =>
    obtain ⟨later', e', g', hgranted', hmem', _, hlatest⟩ :=
      h.latest_of_standing hfresh ((h.tokens_get?_iff hfresh).mp hget)
    obtain ⟨rfl, _, _⟩ := hgranted.unique hfresh hgranted' ht (h.mem_tokens hgranted' hmem')
    exact absurd hchain (hlatest x hx t' ht')

/-- A token in the table belongs to the chain of a root, and is of a kind that is handed out. -/
theorem Course.chain_of_get? (h : Course policy past store) (hfresh : (drawnTokens past).Nodup)
    (hget : store.tokens.get? t = some i) :
    i.kind ∈ policy.kinds ∧
      ∃ chain < past.countP Entry.isRoot, chainOf past t = some chain := by
  have hstanding := (h.tokens_get?_iff hfresh).mp hget
  obtain ⟨chain, hchain⟩ := h.exists_chainOf hfresh (h.mem_drawnTokens hstanding)
  obtain ⟨_, _, _, _, hmem, _⟩ := hstanding
  exact ⟨kind_of_mem_newTokens hmem, chain, chainOf_lt hchain, hchain⟩

/-- The table holds at most two tokens for each root. -/
theorem Course.size_tokens_le (h : Course policy past store)
    (hfresh : (drawnTokens past).Nodup) :
    store.tokens.size ≤ 2 * past.countP Entry.isRoot := by
  -- no two entries are of one kind and in one chain
  have hdistinct : (store.tokens.entries.map fun entry =>
      (chainOf past entry.1, entry.2.kind)).Nodup := by
    refine List.Nodup.map_on ?_ (List.Nodup.of_map _ store.tokens.distinct)
    rintro ⟨t, i⟩ hentry ⟨t', i'⟩ hentry' hplace
    rw [Prod.mk.injEq] at hplace
    have hget := Table.mem_entries_iff.mp hentry
    have hget' := Table.mem_entries_iff.mp hentry'
    obtain rfl := h.single_token hfresh hget hget' hplace.1 hplace.2
    rw [Option.some.inj (hget.symm.trans hget')]
  have hplaces : (store.tokens.entries.map fun entry =>
      (chainOf past entry.1, entry.2.kind)) ⊆
        (List.range (past.countP Entry.isRoot)).map some ×ˢ policy.kinds := by
    intro place hplace
    obtain ⟨⟨t, i⟩, hentry, rfl⟩ := List.mem_map.mp hplace
    obtain ⟨hkind, chain, hlt, hchain⟩ := h.chain_of_get? hfresh (Table.mem_entries_iff.mp hentry)
    refine List.pair_mem_product.mpr ⟨?_, hkind⟩
    rw [hchain]
    exact List.mem_map.mpr ⟨chain, List.mem_range.mpr hlt, rfl⟩
  have hle := hdistinct.length_le_of_subset hplaces
  rw [List.length_map, List.length_product, List.length_map, List.length_range] at hle
  calc
    store.tokens.size ≤ past.countP Entry.isRoot * policy.kinds.length := hle
    _ ≤ past.countP Entry.isRoot * 2 := Nat.mul_le_mul_left _ length_kinds_le
    _ = 2 * past.countP Entry.isRoot := Nat.mul_comm _ _

/-- A token that is not in the table is good for nothing. -/
theorem refused_of_get?_eq_none (hget : store.tokens.get? t = none) (policy : Policy)
    (moment : Moment) :
    store.identityOf moment.now t = none ∧
      exchange policy moment t store = (.error .invalidCredentials, store) := by
  constructor
  · rw [Store.identityOf, hget]
    rfl
  · simp [exchange, Store.refreshable, hget]

/-- Right after an issue the tokens in the table are its own or good at its time. -/
theorem Course.mem_tokens_or_live (h : Course policy (e :: past) store)
    (hsome : e.grant?.isSome = true) (hget : store.tokens.get? t = some i) :
    t ∈ e.tokens ∨ i.isLive e.moment.issuedAt = true := by
  cases h with
  | idle _ hidle =>
    rw [hidle] at hsome
    cases hsome
  | issued _ _ =>
    rcases mem_or_live_of_get?_issue hget with hmem | ⟨_, hlive⟩
    · left
      rw [Entry.tokens_eq rfl, tokens_newGrant]
      exact List.mem_map.mpr ⟨_, hmem, rfl⟩
    · exact Or.inr hlive

/-- **Chains of grants.** After any calls of a fresh core, whatever the clock read, the table
holds at most one token of each kind for each chain, from the latest grant of the chain, and a
token from before it is good for nothing. The table thus holds at most two tokens for each
root, and right after an issue none that had come to its end. -/
theorem chained_of_history (h : (core policy).History .empty past store)
    (hfresh : (drawnTokens past).Nodup) : Chained policy past store := by
  have hcourse := course_of_history h
  constructor
  case placed =>
    intro t i hget
    exact hcourse.chain_of_get? hfresh hget
  case single =>
    intro t i t' i' hget hget' hchain hkind
    exact hcourse.single_token hfresh hget hget' hchain hkind
  case latest =>
    intro t i hget
    obtain ⟨later, e, g, hgranted, hmem, _, hlatest⟩ :=
      hcourse.latest_of_standing hfresh ((hcourse.tokens_get?_iff hfresh).mp hget)
    exact ⟨later, e, g, hgranted, hcourse.mem_tokens hgranted hmem, hlatest⟩
  case retired =>
    intro later e g t x t' hgranted ht hx ht' hchain moment
    have hnone := hcourse.get?_of_continued hfresh hgranted ht hx ht' hchain
    obtain ⟨hlookup, hrefresh⟩ := refused_of_get?_eq_none hnone policy moment
    exact ⟨congrArg Except.ok hlookup, congrArg Prod.fst hrefresh⟩
  case bounded => exact hcourse.size_tokens_le hfresh
  case pruned =>
    rintro e earlier t i rfl hsome hget
    exact hcourse.mem_tokens_or_live hsome hget

end

/-! ## A chain of three grants -/

/-- A user registers and refreshes the grant twice, and another user registers in between. -/
def chainedCalls : List (Moment × Call) := [
  (sampleMoment 4, .grant (.refresh "bbb")),
  (sampleMoment 3, .grant (.refresh "b")),
  (sampleMoment 2, .grant (.register ⟨"bob@x.org", "hidden", none⟩)),
  (sampleMoment 1, .grant (.register ⟨"Ada@x.org", "secret", none⟩))]

/-- The history of the chained calls, and the store that they lead to. -/
def chainedRun : List Entry × Store :=
  (core samplePolicy).run .empty chainedCalls

/-- The chain of three grants and the chain of one fill the table with four tokens. -/
theorem chained_chainedRun :
    (drawnTokens chainedRun.1).Nodup ∧ Chained samplePolicy chainedRun.1 chainedRun.2 ∧
      chainOf chainedRun.1 "aaaa" = chainOf chainedRun.1 "b" ∧
      chainOf chainedRun.1 "aaaa" ≠ chainOf chainedRun.1 "bb" ∧
      chainedRun.2.tokens.size = 2 * chainedRun.1.countP Entry.isRoot := by
  have hfresh : (drawnTokens chainedRun.1).Nodup := by decide
  exact ⟨hfresh, chained_of_history ((core samplePolicy).history_run .empty chainedCalls) hfresh,
    by decide, by decide, by decide⟩

end Memory

end IdentityGateway
