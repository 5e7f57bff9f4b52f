import IdentityGateway.Proofs.Json.Forms

/-!
# Values that nobody wants, by their form

Reading past a value keeps the open containers in a list. What closes them is said of that list, so
that one induction on the steps shows that only values are read past; that every value is, follows
its form.
-/

namespace IdentityGateway.Json

open Byte

/-- Some bytes go on with the containers that are open, the innermost first, and end each of them;
the rest comes after all of them. -/
inductive Closes : List Frame → List UInt8 → List UInt8 → Prop
  | done {rest : List UInt8} : Closes [] rest rest
  | list {frames : List Frame} {items : List (List UInt8)} {body bs rest : List UInt8}
      (hbody : Series Eq false items body) (hitems : ∀ item ∈ items, ValueForm item)
      (hrest : Closes frames bs rest) : Closes (.list :: frames) (body ++ closeList :: bs) rest
  | object {frames : List Frame} {members : List (Unit × List UInt8)} {body bs rest : List UInt8}
      (hbody : Series (MemberText AnyKey) false members body)
      (hmembers : ∀ m ∈ members, ValueForm m.2) (hrest : Closes frames bs rest) :
      Closes (.object :: frames) (body ++ closeObject :: bs) rest

/-- Some bytes give what is expected and end the containers that are open. -/
inductive Meets : Expecting → List Frame → List UInt8 → List UInt8 → Prop
  | value {frames : List Frame} {before text after rest : List UInt8} (hbefore : AllBlank before)
      (htext : ValueForm text) (hafter : Closes frames after rest) :
      Meets .value frames (before ++ (text ++ after)) rest
  | ending {frames : List Frame} {bs rest : List UInt8} (h : Closes frames bs rest) :
      Meets .ending frames bs rest

section

variable {bs rest text body before : List UInt8} {frames : List Frame} {steps : Budget}

/-! ## Only values are read past -/

/-- A list goes on with a comma and a value. -/
theorem Closes.nextItem (hbefore : AllBlank before) (h : Meets .value (.list :: frames) bs rest) :
    Closes (.list :: frames) (before ++ comma :: bs) rest := by
  cases h with
  | @value _ behind text _ _ hbehind htext hafter =>
    cases hafter with
    | @list _ items body after _ hbody hitems hrest =>
      have hnext := Closes.list (.cons (.next hbefore hbehind) rfl hbody)
        (List.forall_mem_cons.mpr ⟨htext, hitems⟩) hrest
      simpa only [List.append_assoc, List.cons_append] using hnext

/-- An object goes on with a comma, a key and a value. -/
theorem Closes.nextMember {source behind gap : List UInt8} (hbefore : AllBlank before)
    (hgap : AllBlank gap) (hsource : StringForm source) (hbehind : AllBlank behind)
    (h : Meets .value (.object :: frames) bs rest) :
    Closes (.object :: frames)
      (before ++ comma :: (gap ++ quote :: (source ++ quote :: (behind ++ colon :: bs)))) rest := by
  cases h with
  | @value _ start text _ _ hstart htext hafter =>
    cases hafter with
    | @object _ members body after _ hbody hmembers hrest =>
      have hmember : MemberText AnyKey ((), text) _ :=
        .parts (show AnyKey source () from hsource) hbehind hstart
      have hnext := Closes.object (.cons (.next hbefore hgap) hmember hbody)
        (List.forall_mem_cons.mpr ⟨htext, hmembers⟩) hrest
      simpa only [List.append_assoc, List.cons_append] using hnext

/-- A list that starts with a value is one. -/
theorem Meets.openList (hbefore : AllBlank before) {gap : List UInt8} (hgap : AllBlank gap)
    (h : Meets .value (.list :: frames) bs rest) :
    Meets .value frames (before ++ Byte.openList :: (gap ++ bs)) rest := by
  cases h with
  | @value _ behind text _ _ hbehind htext hafter =>
    cases hafter with
    | @list _ items body after _ hbody hitems hrest =>
      have hblanks : AllBlank (gap ++ behind) := List.forall_mem_append.mpr ⟨hgap, hbehind⟩
      have hlist := Meets.value hbefore (.list (.cons (.first hblanks) rfl hbody)
        (List.forall_mem_cons.mpr ⟨htext, hitems⟩)) hrest
      simpa only [List.append_assoc, List.cons_append, List.nil_append] using hlist

/-- An object that starts with a key and a value is one. -/
theorem Meets.openObject {source behind gap : List UInt8} (hbefore : AllBlank before)
    (hgap : AllBlank gap) (hsource : StringForm source) (hbehind : AllBlank behind)
    (h : Meets .value (.object :: frames) bs rest) :
    Meets .value frames (before ++ Byte.openObject ::
      (gap ++ quote :: (source ++ quote :: (behind ++ colon :: bs)))) rest := by
  cases h with
  | @value _ start text _ _ hstart htext hafter =>
    cases hafter with
    | @object _ members body after _ hbody hmembers hrest =>
      have hmember : MemberText AnyKey ((), text) _ :=
        .parts (show AnyKey source () from hsource) hbehind hstart
      have hobject := Meets.value hbefore (.object (.cons (.first hgap) hmember hbody)
        (List.forall_mem_cons.mpr ⟨htext, hmembers⟩)) hrest
      simpa only [List.append_assoc, List.cons_append, List.nil_append] using hobject

private theorem Meets.emptyList (hbefore : AllBlank before) {gap : List UInt8} (hgap : AllBlank gap)
    (h : Meets .ending frames bs rest) :
    Meets .value frames (before ++ Byte.openList :: (gap ++ closeList :: bs)) rest := by
  cases h with
  | ending hclose =>
    have hlist := Meets.value hbefore (.list (.done hgap) (List.forall_mem_nil _)) hclose
    simpa only [List.append_assoc, List.cons_append, List.nil_append] using hlist

private theorem Meets.emptyObject (hbefore : AllBlank before) {gap : List UInt8}
    (hgap : AllBlank gap) (h : Meets .ending frames bs rest) :
    Meets .value frames (before ++ Byte.openObject :: (gap ++ closeObject :: bs)) rest := by
  cases h with
  | ending hclose =>
    have hobject := Meets.value hbefore (.object (.done hgap) (List.forall_mem_nil _)) hclose
    simpa only [List.append_assoc, List.cons_append, List.nil_append] using hobject

/-- What is read past in some steps gives what was expected, and ends the containers that were
open. -/
def SkipsOnly (steps : Budget) : Prop :=
  ∀ {expecting : Expecting} {frames : List Frame} {bs rest : List UInt8},
    skipNested steps expecting frames bs = .ok rest → Meets expecting frames bs rest

/-- One more step starts with a value. -/
theorem SkipsOnly.value {step : UInt8} (ih : SkipsOnly steps)
    (h : skipNested (step :: steps) .value frames bs = .ok rest) : Meets .value frames bs rest := by
  rw [skipNested] at h
  split at h
  · cases h
  next b tail hskip =>
  obtain ⟨before, rfl, hbefore, -⟩ := exists_blanks hskip
  split at h
  · next hb =>
    subst hb
    split at h
    · cases h
    next c after hgap =>
    obtain ⟨gap, rfl, hblanks, -⟩ := exists_blanks hgap
    split at h
    · next hc =>
      subst hc
      exact (ih h).emptyList hbefore hblanks
    · exact (ih h).openList hbefore hblanks
  split at h
  · next hb =>
    subst hb
    split at h
    · cases h
    next c after hgap =>
    obtain ⟨gap, rfl, hblanks, -⟩ := exists_blanks hgap
    split at h
    · next hc =>
      subst hc
      exact (ih h).emptyObject hbefore hblanks
    split at h
    · cases h
    next hkey =>
    obtain ⟨start, source, behind, heq, hstart, hsource, hbehind⟩ := exists_key hkey
    rw [heq, ← List.append_assoc]
    exact (ih h).openObject hbefore (List.forall_mem_append.mpr ⟨hblanks, hstart⟩) hsource hbehind
  split at h
  · cases h
  next hscalar =>
  obtain ⟨text, heq, htext⟩ := exists_scalarForm hscalar
  rw [heq]
  cases ih h with
  | ending hclose => exact .value hbefore (.scalar htext) hclose

/-- One more step goes on with a list or ends it. -/
theorem SkipsOnly.list {step : UInt8} (ih : SkipsOnly steps)
    (h : skipNested (step :: steps) .ending (.list :: frames) bs = .ok rest) :
    Closes (.list :: frames) bs rest := by
  rw [skipNested] at h
  split at h
  · cases h
  next b tail hskip =>
  obtain ⟨before, rfl, hbefore, -⟩ := exists_blanks hskip
  split at h
  · next hb =>
    subst hb
    exact .nextItem hbefore (ih h)
  split at h
  · next hb =>
    subst hb
    cases ih h with
    | ending hclose => exact .list (.done hbefore) (List.forall_mem_nil _) hclose
  · cases h

/-- One more step goes on with an object or ends it. -/
theorem SkipsOnly.object {step : UInt8} (ih : SkipsOnly steps)
    (h : skipNested (step :: steps) .ending (.object :: frames) bs = .ok rest) :
    Closes (.object :: frames) bs rest := by
  rw [skipNested] at h
  split at h
  · cases h
  next b tail hskip =>
  obtain ⟨before, rfl, hbefore, -⟩ := exists_blanks hskip
  split at h
  · next hb =>
    subst hb
    split at h
    · cases h
    next hkey =>
    obtain ⟨gap, source, behind, rfl, hgap, hsource, hbehind⟩ := exists_key hkey
    exact .nextMember hbefore hgap hsource hbehind (ih h)
  split at h
  · next hb =>
    subst hb
    cases ih h with
    | ending hclose => exact .object (.done hbefore) (List.forall_mem_nil _) hclose
  · cases h

/-- Whatever is read past gives what was expected. -/
theorem meets_of_skipNested (steps : Budget) : SkipsOnly steps := by
  induction steps with
  | nil =>
    intro expecting frames bs rest h
    cases h
  | cons step steps ih =>
    intro expecting frames bs rest h
    cases expecting with
    | value => exact ih.value h
    | ending =>
      cases frames with
      | nil =>
        rw [skipNested_ending_nil] at h
        cases h
        exact .ending .done
      | cons frame frames =>
        cases frame with
        | list => exact .ending (ih.list h)
        | object => exact .ending (ih.object h)

/-- What is read past is a value, with blanks before it. -/
theorem exists_valueForm (h : skipValue bs = .ok rest) :
    ∃ before text, bs = before ++ (text ++ rest) ∧ AllBlank before ∧ ValueForm text := by
  cases meets_of_skipNested _ h with
  | @value _ before text after _ hbefore htext hafter =>
    cases hafter
    exact ⟨before, text, rfl, hbefore, htext⟩

/-! ## Every value is read past -/

/-- A text is read past as a value wherever one is expected, in no more steps than it has bytes. -/
def Skipped (text : List UInt8) : Prop :=
  ∃ n ≤ text.length, ∀ {frames : List Frame} {steps : Budget} {before rest : List UInt8},
    AllBlank before → EndsValue rest → n ≤ steps.length →
      skipNested steps .value frames (before ++ (text ++ rest)) =
        skipNested (steps.drop n) .ending frames rest

/-- Each step of a reader needs something of its budget. -/
theorem exists_cons_of_lt_length {n : Nat} (h : n < steps.length) :
    ∃ step more, steps = step :: more ∧ n ≤ more.length := by
  cases steps with
  | nil => cases h
  | cons step more => exact ⟨step, more, rfl, Nat.le_of_lt_succ h⟩

/-- A scalar is read past in one step. -/
theorem ScalarForm.skipped (h : ScalarForm text) : Skipped text := by
  have hlength : 1 ≤ text.length := by
    obtain ⟨b, bs, heq, -⟩ := (ValueForm.scalar h).exists_cons
    rw [heq]
    exact Nat.le_add_left 1 _
  refine ⟨1, hlength, ?_⟩
  intro frames steps before rest hbefore hrest hsteps
  obtain ⟨step, more, rfl, -⟩ := exists_cons_of_lt_length hsteps
  obtain ⟨b, bs, heq, hb, hskip⟩ := h.skipScalar hrest
  simp only [heq, skipNested, skipBlanks_append_cons hbefore hb.blank, if_neg hb.openList,
    if_neg hb.openObject, hskip, List.drop_succ_cons, List.drop_zero]

/-- The byte that opens a container. -/
def Frame.opening : Frame → UInt8
  | .list => openList
  | .object => openObject

/-- The byte that ends a container. -/
def Frame.ending : Frame → UInt8
  | .list => closeList
  | .object => closeObject

/-- A text is read past as a part of a container: as the first one with the mark before it, and as
another one with the comma before it. Both take one step more than the value in it. -/
def SkippedIn (frame : Frame) (text : List UInt8) : Prop :=
  ∃ n ≤ text.length, ∀ {frames : List Frame} {steps : Budget} {before gap rest : List UInt8},
    AllBlank before → EndsValue rest → n < steps.length →
      (Gap true gap → skipNested steps .value frames
          (before ++ frame.opening :: (gap ++ (text ++ rest))) =
        skipNested (steps.drop (n + 1)) .ending (frame :: frames) rest) ∧
      (Gap false gap → skipNested steps .ending (frame :: frames) (gap ++ (text ++ rest)) =
        skipNested (steps.drop (n + 1)) .ending (frame :: frames) rest)

/-- A value is read past as an element of a list. -/
theorem Skipped.item (h : Skipped text) (hform : ValueForm text) : SkippedIn .list text := by
  obtain ⟨n, hn, hvalue⟩ := h
  obtain ⟨b, bs, rfl, hb, hclose⟩ := hform.exists_cons
  refine ⟨n, hn, ?_⟩
  intro frames steps before gap rest hbefore hrest hsteps
  obtain ⟨step, more, rfl, hmore⟩ := exists_cons_of_lt_length hsteps
  constructor
  · rintro ⟨hblanks⟩
    have hfirst : skipNested more .value (.list :: frames) (b :: (bs ++ rest)) = _ :=
      @hvalue _ _ [] _ .nil hrest hmore
    simp only [Frame.opening, skipNested,
      skipBlanks_append_cons hbefore (show isBlank openList = false from rfl), if_true,
      List.cons_append, skipBlanks_append_cons hblanks hb, if_neg hclose, hfirst,
      List.drop_succ_cons]
  · rintro (_ | ⟨hbefore', hbehind⟩)
    simp only [List.append_assoc, List.cons_append, skipNested,
      skipBlanks_append_cons hbefore' (show isBlank comma = false from rfl), if_true,
      List.drop_succ_cons]
    exact hvalue hbehind hrest hmore

/-- A key and a value are read past as a member of an object. -/
theorem Skipped.member (h : Skipped text) {part : List UInt8}
    (hpart : MemberText AnyKey ((), text) part) : SkippedIn .object part := by
  obtain ⟨n, hn, hvalue⟩ := h
  cases hpart with
  | @parts _ source behind start text hkey hbehind hstart =>
    refine ⟨n, by simp only [List.length_append, List.length_cons]; omega, ?_⟩
    intro frames steps before gap rest hbefore hrest hsteps
    obtain ⟨step, more, rfl, hmore⟩ := exists_cons_of_lt_length hsteps
    constructor
    · rintro ⟨hblanks⟩
      have hskip := skipKey_append .nil hkey hbehind
        (start ++ (text ++ rest))
      rw [List.nil_append] at hskip
      simp only [Frame.opening, skipNested,
        skipBlanks_append_cons hbefore (show isBlank openObject = false from rfl),
        if_neg (show openObject ≠ openList by decide), if_true, List.append_assoc,
        List.cons_append, skipBlanks_append_cons hblanks (show isBlank quote = false from rfl),
        if_neg (show quote ≠ closeObject by decide), hskip, List.drop_succ_cons]
      exact hvalue hstart hrest hmore
    · rintro (_ | ⟨hbefore', hbehind'⟩)
      simp only [List.append_assoc, List.cons_append, skipNested,
        skipBlanks_append_cons hbefore' (show isBlank comma = false from rfl), if_true,
        skipKey_append hbehind' hkey hbehind, List.drop_succ_cons]
      exact hvalue hstart hrest hmore

/-- The mark that ends a container may come after a value. -/
theorem Frame.ending_mem_enders (frame : Frame) : frame.ending ∈ enders := by
  cases frame <;> decide

section

variable {α : Type} {Part : α → List UInt8 → Prop} {as : List α} {frame : Frame}

/-- The end of a container is read past behind blanks. -/
theorem skipNested_ending (hblanks : AllBlank before) (step : UInt8) (rest : List UInt8) :
    skipNested (step :: steps) .ending (frame :: frames) (before ++ frame.ending :: rest) =
      skipNested steps .ending frames rest := by
  cases frame with
  | list =>
    simp only [Frame.ending, skipNested,
      skipBlanks_append_cons hblanks (show isBlank closeList = false from rfl),
      if_neg (show closeList ≠ comma by decide), if_true]
  | object =>
    simp only [Frame.ending, skipNested,
      skipBlanks_append_cons hblanks (show isBlank closeObject = false from rfl),
      if_neg (show closeObject ≠ comma by decide), if_true]

/-- The other parts of a container are read past with its end. -/
theorem Series.skipRest (h : Series Part false as body)
    (hparts : ∀ a ∈ as, ∀ text, Part a text → SkippedIn frame text) : ∃ n ≤ body.length + 1,
    ∀ {frames : List Frame} {steps : Budget} (rest : List UInt8), n ≤ steps.length →
      skipNested steps .ending (frame :: frames) (body ++ frame.ending :: rest) =
        skipNested (steps.drop n) .ending frames rest := by
  induction as generalizing body with
  | nil =>
    cases h with
    | done hblanks =>
      refine ⟨1, Nat.le_add_left 1 _, ?_⟩
      intro frames steps rest hsteps
      obtain ⟨step, more, rfl, -⟩ := exists_cons_of_lt_length hsteps
      exact skipNested_ending hblanks step rest
  | cons a as ih =>
    cases h with
    | @cons _ _ _ gap text body hgap hpart hrest =>
      obtain ⟨n, hn, hfirst⟩ := hparts a List.mem_cons_self text hpart
      obtain ⟨m, hm, hmore⟩ := ih hrest fun a ha => hparts a (List.mem_cons_of_mem _ ha)
      have hlength : 1 ≤ gap.length := by
        cases hgap
        simp only [List.length_append, List.length_cons]
        omega
      refine ⟨n + 1 + m, by simp only [List.length_append]; omega, ?_⟩
      intro frames steps rest hsteps
      have hends := hrest.endsValue frame.ending_mem_enders rest
      have hdrop : m ≤ (steps.drop (n + 1)).length := by rw [List.length_drop]; omega
      have hread := (@hfirst frames steps [] gap _ .nil hends (by omega)).2 hgap
      rw [List.append_assoc, List.append_assoc, hread, hmore rest hdrop, List.drop_drop]

/-- A container without parts is read past in one step. -/
theorem skipped_empty (hblanks : AllBlank body) :
    Skipped (frame.opening :: (body ++ [frame.ending])) := by
  refine ⟨1, Nat.le_add_left 1 _, ?_⟩
  intro frames steps before rest hbefore _ hsteps
  obtain ⟨step, more, rfl, -⟩ := exists_cons_of_lt_length hsteps
  cases frame with
  | list =>
    simp only [Frame.opening, Frame.ending, List.append_assoc, List.cons_append, List.nil_append,
      skipNested, skipBlanks_append_cons hbefore (show isBlank openList = false from rfl),
      skipBlanks_append_cons hblanks (show isBlank closeList = false from rfl), if_true,
      List.drop_succ_cons, List.drop_zero]
  | object =>
    simp only [Frame.opening, Frame.ending, List.append_assoc, List.cons_append, List.nil_append,
      skipNested, skipBlanks_append_cons hbefore (show isBlank openObject = false from rfl),
      skipBlanks_append_cons hblanks (show isBlank closeObject = false from rfl),
      if_neg (show openObject ≠ openList by decide), if_true, List.drop_succ_cons, List.drop_zero]

/-- A container is read past if its parts are. -/
theorem skipped_container (h : Series Part true as body)
    (hparts : ∀ a ∈ as, ∀ text, Part a text → SkippedIn frame text) :
    Skipped (frame.opening :: (body ++ [frame.ending])) := by
  cases h with
  | done hblanks => exact skipped_empty hblanks
  | @cons _ a as gap text body hgap hpart hrest =>
    obtain ⟨n, hn, hfirst⟩ := hparts a List.mem_cons_self text hpart
    obtain ⟨m, hm, hmore⟩ := hrest.skipRest fun a ha => hparts a (List.mem_cons_of_mem _ ha)
    refine ⟨n + 1 + m, by simp only [List.length_append, List.length_cons]; omega, ?_⟩
    intro frames steps before rest hbefore _ hsteps
    have hends := hrest.endsValue frame.ending_mem_enders rest
    have hdrop : m ≤ (steps.drop (n + 1)).length := by rw [List.length_drop]; omega
    have hread := (@hfirst frames steps before gap _ hbefore hends (by omega)).1 hgap
    simp only [List.append_assoc, List.cons_append, List.nil_append]
    rw [hread, hmore rest hdrop, List.drop_drop]

end

/-- Every value is read past, however deeply nested. -/
theorem ValueForm.skipped (h : ValueForm text) : Skipped text := by
  induction h with
  | scalar htext => exact htext.skipped
  | @list items _ hbody hitems ih =>
    have hparts : ∀ item ∈ items, ∀ text, item = text → SkippedIn .list text := by
      rintro item hitem _ rfl
      exact (ih item hitem).item (hitems item hitem)
    exact skipped_container hbody hparts
  | @object members _ hbody _ ih =>
    have hparts : ∀ m ∈ members, ∀ part, MemberText AnyKey m part → SkippedIn .object part :=
      fun m hm _ hpart => (ih m hm).member hpart
    exact skipped_container hbody hparts

/-- A value is read past with the blanks before it, up to what may come after a value. -/
theorem ValueForm.skipValue (h : ValueForm text) (hbefore : AllBlank before)
    (hrest : EndsValue rest) : Json.skipValue (before ++ (text ++ rest)) = .ok rest := by
  obtain ⟨n, hn, hskip⟩ := h.skipped
  have hlength : n < (budget (before ++ (text ++ rest))).length := by
    simp only [budget, List.length_cons, List.length_append]
    omega
  rw [Json.skipValue, hskip hbefore hrest (Nat.le_of_lt hlength)]
  obtain ⟨step, more, heq⟩ :
      ∃ step more, (budget (before ++ (text ++ rest))).drop n = step :: more := by
    refine List.exists_cons_of_length_pos ?_
    rw [List.length_drop]
    omega
  rw [heq, skipNested_ending_nil]

end

end IdentityGateway.Json
