import IdentityGateway.Proofs.Memory.Refresh
import IdentityGateway.Proofs.Memory.Stages
import Mathlib.Data.List.Basic
import Mathlib.Data.List.Pairwise
import Mathlib.Logic.Function.Basic

/-!
# Interleaved calls of a core in memory

Many calls may be under way at once, and their steps come in any order. The replies and the
store are those of the calls made one after another, in the order in which they held the lock
last.
-/

namespace IdentityGateway.Memory

/-- Calls under way on a store. -/
structure World (ι : Type) where
  /-- How far each call has come. -/
  stage : ι → Stage
  store : Store
  /-- The calls that held the lock, latest first, once for each step that they held it in. -/
  holders : List ι

variable {ι : Type} [DecidableEq ι]

/-- The calls that held the lock, ordered by the last time that they did so, latest first. -/
def lastHolders : List ι → List ι
  | [] => []
  | i :: earlier => i :: (lastHolders earlier).filter fun j => j ≠ i

namespace World

/-- No call has begun. -/
def start (calls : ι → Moment × Call) : World ι :=
  ⟨fun i => .called (calls i).2, .empty, []⟩

/-- A call takes a step. -/
def step (policy : Policy) (calls : ι → Moment × Call) (w : World ι) (i : ι) : World ι :=
  let (stage, store) := (w.stage i).next policy (calls i).1 w.store
  { stage := Function.update w.stage i stage
    store
    holders := if (w.stage i).locks then i :: w.holders else w.holders }

/-- Calls take steps in the order of a schedule, which lists the latest first. -/
def after (policy : Policy) (calls : ι → Moment × Call) : List ι → World ι
  | [] => start calls
  | i :: schedule => (after policy calls schedule).step policy calls i

/-- What a call adds to the history once it has an outcome. -/
def entryOf (policy : Policy) (calls : ι → Moment × Call) (w : World ι) (i : ι) : Option Entry :=
  ((w.stage i).outcome policy).map fun reply => ⟨(calls i).1, (calls i).2, reply⟩

/-- The calls with an outcome, as if they had been made one after another in the order in which
they held the lock last. -/
def history (policy : Policy) (calls : ι → Moment × Call) (w : World ι) : List Entry :=
  (lastHolders w.holders).filterMap (w.entryOf policy calls)

section

variable {policy : Policy} {calls : ι → Moment × Call} {w : World ι} {i j : ι}

/-- The last holders are the holders. -/
@[simp] theorem mem_lastHolders {holders : List ι} : i ∈ lastHolders holders ↔ i ∈ holders := by
  induction holders with
  | nil => rfl
  | cons k earlier ih =>
    rw [lastHolders, List.mem_cons, List.mem_filter, ih, List.mem_cons]
    by_cases hi : i = k <;> simp [hi]

/-- A call that is answered is in the history, if it ever held the lock. -/
theorem mem_history {reply : Reply} (hi : i ∈ w.holders) (hstage : w.stage i = .replied reply) :
    ⟨(calls i).1, (calls i).2, reply⟩ ∈ w.history policy calls := by
  refine List.mem_filterMap.mpr ⟨i, mem_lastHolders.mpr hi, ?_⟩
  rw [entryOf, hstage]
  rfl

/-- A step of another call leaves a call where it is. -/
theorem stage_step_of_ne (hj : j ≠ i) : (w.step policy calls i).stage j = w.stage j :=
  Function.update_of_ne hj _ _

/-- A step of a call takes it to the next stage. -/
theorem stage_step_self : (w.step policy calls i).stage i =
    ((w.stage i).next policy (calls i).1 w.store).1 :=
  Function.update_self _ _ _

/-- A step of another call leaves the entry of a call alone. -/
theorem entryOf_step_of_ne (hj : j ≠ i) :
    (w.step policy calls i).entryOf policy calls j = w.entryOf policy calls j := by
  rw [entryOf, stage_step_of_ne hj, entryOf]

/-- A step that does not hold the lock leaves the history alone. -/
theorem history_step_of_unlocked (hlocks : (w.stage i).locks = false)
    (hsame : i ∈ w.holders →
      (w.step policy calls i).entryOf policy calls i = w.entryOf policy calls i) :
    (w.step policy calls i).history policy calls = w.history policy calls := by
  have hholders : (w.step policy calls i).holders = w.holders := by
    simp only [step, hlocks, Bool.false_eq_true, if_false]
  rw [history, hholders, history]
  apply List.filterMap_congr
  intro j hj
  by_cases hji : j = i
  · subst hji
    exact hsame (mem_lastHolders.mp hj)
  · exact entryOf_step_of_ne hji

/-- A step that holds the lock puts the call before the others in the history. -/
theorem history_step_of_locked (hlocks : (w.stage i).locks = true) :
    (w.step policy calls i).history policy calls =
      ((w.step policy calls i).entryOf policy calls i).toList ++ w.history policy calls := by
  have hholders : (w.step policy calls i).holders = i :: w.holders := by
    simp only [step, hlocks, if_true]
  have hnone : w.entryOf policy calls i = none := by
    rw [entryOf, Stage.outcome_of_locks hlocks]
    rfl
  have hrest : ((lastHolders w.holders).filter fun j => j ≠ i).filterMap
      ((w.step policy calls i).entryOf policy calls) = w.history policy calls := by
    rw [List.filterMap_filter, history]
    apply List.filterMap_congr
    intro j _
    by_cases hji : j = i
    · simp [hji, hnone]
    · simp [hji, entryOf_step_of_ne hji]
  rw [history, hholders, lastHolders, List.filterMap_cons, hrest]
  cases (w.step policy calls i).entryOf policy calls i <;> rfl

/-- A call that held the lock stays among the holders. -/
theorem mem_holders_step (hj : j ∈ w.holders) (i : ι) :
    j ∈ (w.step policy calls i).holders := by
  unfold step
  cases (w.stage i).locks <;> simp [hj]

/-- A call that held the lock before keeps its entry in a step without it. -/
theorem entryOf_step_of_unlocked (hlocks : (w.stage i).locks = false)
    (hearly : (w.stage i).isEarly = false) :
    (w.step policy calls i).entryOf policy calls i = w.entryOf policy calls i := by
  have hmove := Stage.move policy (calls i).1 w.store (w.stage i)
  rw [entryOf, stage_step_self, (hmove.unlocked hlocks).2 hearly, entryOf]

/-- Calls that are early have not held the lock. -/
def Early (w : World ι) : Prop :=
  ∀ i, (w.stage i).isEarly = true → i ∉ w.holders

omit [DecidableEq ι] in
/-- A call that held the lock is not early. -/
theorem Early.isEarly_eq_false (h : w.Early) (hi : i ∈ w.holders) :
    (w.stage i).isEarly = false :=
  Bool.eq_false_iff.mpr fun hearly => h i hearly hi

/-- A step keeps those out of the lock that are early. -/
theorem Early.step (h : w.Early) (i : ι) : (w.step policy calls i).Early := by
  intro j hearly
  by_cases hji : j = i
  · subst hji
    have hmove := Stage.move policy (calls j).1 w.store (w.stage j)
    rw [stage_step_self] at hearly
    obtain ⟨hbefore, hlocks⟩ := hmove.isEarly_of_isEarly hearly
    simp only [World.step, hlocks, Bool.false_eq_true, if_false]
    exact h j hbefore
  · rw [stage_step_of_ne hji] at hearly
    have hnot := h j hearly
    unfold World.step
    cases (w.stage i).locks <;> simp [hji, hnot]

/-- Calls that are early have never held the lock. -/
theorem early_after (policy : Policy) (calls : ι → Moment × Call) (schedule : List ι) :
    (after policy calls schedule).Early := by
  induction schedule with
  | nil => exact fun _ _ => List.not_mem_nil
  | cons i schedule ih => exact ih.step i

/-- A step adds at most one entry to the history. -/
theorem fresh_of_step (hearly : w.Early)
    (hfresh : Fresh ((w.step policy calls i).history policy calls)) :
    Fresh (w.history policy calls) := by
  cases hlocks : (w.stage i).locks with
  | false =>
    rwa [history_step_of_unlocked hlocks fun hi =>
      entryOf_step_of_unlocked hlocks (hearly.isEarly_eq_false hi)] at hfresh
  | true =>
    rw [history_step_of_locked hlocks] at hfresh
    cases hentry : (w.step policy calls i).entryOf policy calls i with
    | none => simpa [hentry] using hfresh
    | some e =>
      rw [hentry] at hfresh
      exact hfresh.tail

/-- A call has fewer steps left the more it had. -/
theorem stepsLeft_after_le (policy : Policy) (calls : ι → Moment × Call) (schedule : List ι)
    (i : ι) :
    ((after policy calls schedule).stage i).stepsLeft ≤ 3 - schedule.count i := by
  induction schedule with
  | nil => exact Nat.le_refl 3
  | cons j schedule ih =>
    rw [after]
    by_cases hij : i = j
    · subst hij
      have hmove := Stage.move policy (calls i).1 (after policy calls schedule).store
        ((after policy calls schedule).stage i)
      have hless := hmove.stepsLeft_le
      rw [stage_step_self, List.count_cons_self]
      omega
    · rw [stage_step_of_ne hij, List.count_cons_of_ne fun h => hij h.symm]
      exact ih

/-- A call that had three steps is answered. -/
theorem replied_of_three_steps {schedule : List ι} (hsteps : 3 ≤ schedule.count i) :
    ∃ reply, (after policy calls schedule).stage i = .replied reply := by
  have hleft := stepsLeft_after_le policy calls schedule i
  cases hstage : (after policy calls schedule).stage i with
  | replied reply => exact ⟨reply, rfl⟩
  | _ =>
    rw [hstage] at hleft
    simp only [Stage.stepsLeft] at hleft
    omega

/-- A step leaves the store and the history alone, or it adds a call to the history that the
core answers alike. -/
theorem step_cases (hearly : w.Early)
    (hvalid : (w.stage i).Valid policy (calls i).1 w.store (calls i).2) :
    ((w.step policy calls i).history policy calls = w.history policy calls ∧
        (w.step policy calls i).store = w.store) ∨
      ∃ reply, (w.step policy calls i).history policy calls =
          ⟨(calls i).1, (calls i).2, reply⟩ :: w.history policy calls ∧
        (core policy).reply (calls i).1 (calls i).2 w.store =
          (reply, (w.step policy calls i).store) := by
  have hmove := Stage.move policy (calls i).1 w.store (w.stage i)
  cases hlocks : (w.stage i).locks with
  | false =>
    refine Or.inl ⟨?_, (hmove.unlocked hlocks).1⟩
    exact history_step_of_unlocked hlocks fun hi =>
      entryOf_step_of_unlocked hlocks (hearly.isEarly_eq_false hi)
  | true =>
    rw [history_step_of_locked hlocks, entryOf, stage_step_self]
    rcases hmove.locked hlocks hvalid with ⟨hnone, hstore⟩ | ⟨reply, hsettled, hreply⟩
    · exact Or.inl ⟨by rw [hnone]; rfl, hstore⟩
    · exact Or.inr ⟨reply, by rw [hsettled]; rfl, hreply⟩

/-- The calls on a world are those of its history, and those under way are right about the
users that they found. -/
structure Linear (policy : Policy) (calls : ι → Moment × Call) (w : World ι) : Prop where
  history : (core policy).History .empty (w.history policy calls) w.store
  valid : ∀ i, (w.stage i).Valid policy (calls i).1 w.store (calls i).2

/-- A step of any call keeps a world linear, if what is drawn is fresh. -/
theorem Linear.step (h : w.Linear policy calls) (hearly : w.Early) (i : ι)
    (hfresh : Fresh ((w.step policy calls i).history policy calls)) :
    (w.step policy calls i).Linear policy calls := by
  have hcases := step_cases hearly (h.valid i)
  have hhistory : (core policy).History .empty ((w.step policy calls i).history policy calls)
      (w.step policy calls i).store := by
    rcases hcases with ⟨hhistory, hstore⟩ | ⟨reply, hhistory, hreply⟩
    · rw [hhistory, hstore]
      exact h.history
    · have hnext := Core.History.cons (calls i).1 (calls i).2 h.history
      rw [hreply] at hnext
      rwa [hhistory]
  refine ⟨hhistory, fun j => ?_⟩
  by_cases hji : j = i
  · subst hji
    rw [stage_step_self]
    exact (Stage.move policy (calls j).1 w.store (w.stage j)).valid (h.valid j)
  · rw [stage_step_of_ne hji]
    refine (h.valid j).mono ?_
    rcases hcases with ⟨_, hstore⟩ | ⟨reply, hcons, _⟩
    · rw [hstore]
      exact fun _ _ hfound => hfound
    · -- users are only added, so a login that found its user would find the same one now
      rw [hcons] at hhistory hfresh
      exact (course_of_history h.history).userOf_of_cons (course_of_history hhistory) hfresh.ids

/-- Worlds are linear after any schedule, if what is drawn is fresh. -/
theorem linear_after (schedule : List ι)
    (hfresh : Fresh ((after policy calls schedule).history policy calls)) :
    (after policy calls schedule).Linear policy calls := by
  induction schedule with
  | nil => exact ⟨.nil, fun _ => .called⟩
  | cons i schedule ih =>
    have hearly := early_after policy calls schedule
    exact (ih (fresh_of_step hearly hfresh)).step hearly i hfresh

/-- A call that is no longer early held the lock, or it is refused alike on every store. -/
theorem mem_holders_or_refused {schedule : List ι}
    (hfresh : Fresh ((after policy calls schedule).history policy calls))
    (hlate : ((after policy calls schedule).stage i).isEarly = false) :
    i ∈ (after policy calls schedule).holders ∨
      ∃ failure, (after policy calls schedule).stage i = .replied (.grant (.error failure)) ∧
        ∀ store, (core policy).reply (calls i).1 (calls i).2 store =
          (.grant (.error failure), store) := by
  induction schedule with
  | nil => cases hlate
  | cons j schedule ih =>
    have hearly := early_after policy calls schedule
    have hbefore := fresh_of_step hearly hfresh
    rw [after] at hlate ⊢
    by_cases hij : i = j
    · subst hij
      rw [stage_step_self] at hlate ⊢
      have hmove := Stage.move policy (calls i).1 (after policy calls schedule).store
        ((after policy calls schedule).stage i)
      cases hlocks : ((after policy calls schedule).stage i).locks with
      | true => exact Or.inl (by simp [step, hlocks])
      | false =>
        cases hfirst : ((after policy calls schedule).stage i).isEarly with
        | true =>
          have hvalid := (linear_after schedule hbefore).valid i
          exact Or.inr (hmove.refused_of_isEarly hfirst hlocks hlate hvalid)
        | false =>
          rcases ih hbefore hfirst with hmem | ⟨failure, hstage, hreply⟩
          · exact Or.inl (mem_holders_step hmem i)
          · exact Or.inr ⟨failure, by rw [hstage]; rfl, hreply⟩
    · rw [stage_step_of_ne hij] at hlate ⊢
      exact (ih hbefore hlate).imp_left fun hmem => mem_holders_step hmem j

/-- A call that got a grant held the lock. -/
theorem mem_holders_of_granted {schedule : List ι} {g : Grant}
    (hfresh : Fresh ((after policy calls schedule).history policy calls))
    (hstage : (after policy calls schedule).stage i = .replied (.grant (.ok g))) :
    i ∈ (after policy calls schedule).holders := by
  rcases mem_holders_or_refused (i := i) hfresh (by rw [hstage]; rfl) with hmem | ⟨_, hrefused, _⟩
  · exact hmem
  · rw [hstage] at hrefused
    cases hrefused

/-- Of two calls that got grants, one came before the other. -/
theorem related_of_granted {schedule : List ι} {R : Entry → Entry → Prop} {g g' : Grant}
    (hfresh : Fresh ((after policy calls schedule).history policy calls))
    (hrelated : ((after policy calls schedule).history policy calls).Pairwise R)
    (hi : (after policy calls schedule).stage i = .replied (.grant (.ok g)))
    (hj : (after policy calls schedule).stage j = .replied (.grant (.ok g'))) (hne : i ≠ j) :
    R ⟨(calls i).1, (calls i).2, .grant (.ok g)⟩ ⟨(calls j).1, (calls j).2, .grant (.ok g')⟩ ∨
      R ⟨(calls j).1, (calls j).2, .grant (.ok g')⟩
        ⟨(calls i).1, (calls i).2, .grant (.ok g)⟩ := by
  have hone : (lastHolders (after policy calls schedule).holders).Pairwise fun i j => ∀ e e',
      (after policy calls schedule).entryOf policy calls i = some e →
        (after policy calls schedule).entryOf policy calls j = some e' → R e e' ∨ R e' e :=
    (List.pairwise_filterMap.mp hrelated).imp fun h e e' he he' => Or.inl (h e he e' he')
  have hsymm : Std.Symm fun i j => ∀ e e',
      (after policy calls schedule).entryOf policy calls i = some e →
        (after policy calls schedule).entryOf policy calls j = some e' → R e e' ∨ R e' e :=
    ⟨fun _ _ h e e' he he' => (h e' e he' he).symm⟩
  have hmem := mem_lastHolders.mpr (mem_holders_of_granted hfresh hi)
  have hmem' := mem_lastHolders.mpr (mem_holders_of_granted hfresh hj)
  exact hone.forall hmem hmem' hne _ _ (by rw [entryOf, hi]; rfl) (by rw [entryOf, hj]; rfl)

end

end World

/-- **Interleaved calls.** Let any calls take their steps in any order, whatever the clock
reads, with fresh values where they are drawn. The replies and the store are those of the calls
made one after another in the order in which they held the lock last; a call that is answered
without the lock would be refused alike at any time. Every call is answered after three steps.
Of registrations with one email address at most one succeeds, and so it is with refreshes of
one token. -/
theorem interleaving_linear (policy : Policy) (calls : ι → Moment × Call) (schedule : List ι)
    (hfresh : Fresh ((World.after policy calls schedule).history policy calls)) :
    let w := World.after policy calls schedule
    (core policy).History .empty (w.history policy calls) w.store ∧
      (∀ i reply, w.stage i = .replied reply →
        (i ∈ w.holders ∧ ⟨(calls i).1, (calls i).2, reply⟩ ∈ w.history policy calls) ∨
          ∀ store, (core policy).reply (calls i).1 (calls i).2 store = (reply, store)) ∧
      (∀ i, 3 ≤ schedule.count i → ∃ reply, w.stage i = .replied reply) ∧
      (∀ i j account other g g', (calls i).2 = .grant (.register account) →
        (calls j).2 = .grant (.register other) →
        normalizeEmail account.email = normalizeEmail other.email →
        w.stage i = .replied (.grant (.ok g)) → w.stage j = .replied (.grant (.ok g')) →
        i = j) ∧
      ∀ i j token g g', (calls i).2 = .grant (.refresh token) →
        (calls j).2 = .grant (.refresh token) →
        w.stage i = .replied (.grant (.ok g)) → w.stage j = .replied (.grant (.ok g')) →
        i = j := by
  have hlinear := World.linear_after schedule hfresh
  have hcourse := course_of_history hlinear.history
  refine ⟨hlinear.history, ?_, fun i hsteps => World.replied_of_three_steps hsteps, ?_, ?_⟩
  · intro i reply hstage
    rcases World.mem_holders_or_refused (i := i) hfresh (by rw [hstage]; rfl) with
      hmem | ⟨failure, hrefused, hreply⟩
    · exact Or.inl ⟨hmem, World.mem_history hmem hstage⟩
    · obtain rfl := Stage.replied.inj (hstage.symm.trans hrefused)
      exact Or.inr hreply
  · intro i j account other g g' hi hj hsame hgrant hgrant'
    by_contra hne
    rcases World.related_of_granted hfresh hcourse.registered_once hgrant hgrant' hne with
      hdiffer | hdiffer
    · exact hdiffer account other hi hj rfl rfl hsame
    · exact hdiffer other account hj hi rfl rfl hsame.symm
  · intro i j token g g' hi hj hgrant hgrant'
    by_contra hne
    have hspends : ∀ {k g}, (calls k).2 = .grant (.refresh token) → Entry.spends
        ⟨(calls k).1, (calls k).2, .grant (.ok g)⟩ token = true := by
      intro k g hk
      rw [hk, Entry.spends_granted_iff]
    have hunspent := hcourse.spends_once hfresh.tokens
    rcases World.related_of_granted hfresh hunspent hgrant hgrant' hne with hnot | hnot
    · have hspent := hnot token (hspends hi)
      rw [hspends hj] at hspent
      cases hspent
    · have hspent := hnot token (hspends hj)
      rw [hspends hi] at hspent
      cases hspent

/-! ## A race -/

/-- Two registrations with one email address, a login with it, and two refreshes of the first
grant. -/
def raceCalls : Fin 5 → Moment × Call
  | 0 => (sampleMoment 1, .grant (.register ⟨"Ada@x.org", "secret", none⟩))
  | 1 => (sampleMoment 2, .grant (.register ⟨" ADA@x.org", "hidden", none⟩))
  | 2 => (sampleMoment 3, .grant (.login "ada@X.org" "secret"))
  | 3 => (sampleMoment 4, .grant (.refresh "b"))
  | 4 => (sampleMoment 5, .grant (.refresh "b"))

/-- The calls after a schedule in which the first registration and the first refresh win, and
the login is overtaken by the refreshes. -/
def race : World (Fin 5) :=
  .after samplePolicy raceCalls [2, 4, 3, 2, 2, 1, 0, 1, 0]

/-- In the race the login comes last, with the user that it found before the refreshes. -/
theorem linear_race :
    Fresh (race.history samplePolicy raceCalls) ∧ lastHolders race.holders = [2, 4, 3, 1, 0] ∧
      (race.history samplePolicy raceCalls).map (fun e => e.grant?.isSome) =
        [true, false, true, false, true] ∧
      (core samplePolicy).History .empty (race.history samplePolicy raceCalls) race.store := by
  have hfresh : Fresh (race.history samplePolicy raceCalls) :=
    ⟨by decide +kernel, by decide +kernel⟩
  exact ⟨hfresh, by decide +kernel, by decide +kernel,
    (interleaving_linear samplePolicy raceCalls [2, 4, 3, 2, 2, 1, 0, 1, 0] hfresh).1⟩

end IdentityGateway.Memory
