import IdentityGateway.Unicode.Normal

/-!
# Code points that stand apart

The composed normal form of a text falls apart at each code point that neither decomposes nor
combines: it stays where it is, and what is before it and what is behind it are normalized on their
own. Such are all code points of ASCII but letters and a few signs.
-/

namespace IdentityGateway.Unicode

/-- A code point neither decomposes nor combines with another. -/
structure Isolated (n : Nat) : Prop where
  undecomposed : n < firstDecomposed
  unbased : isBase n = false

section

variable {n m s : Nat}

namespace Isolated

/-- A code point before all marks is a starter. -/
theorem combiningClass_eq (hn : Isolated n) : combiningClass n = 0 := by
  have hlt : n < firstMark := Nat.lt_trans hn.undecomposed (by decide)
  rw [combiningClass, if_pos hlt]

private theorem decompose_eq (hn : Isolated n) : decompose n = [n] := by
  rw [decompose, if_pos hn.undecomposed]

/-- Nothing composes with an isolated code point before it. -/
theorem compose?_left (hn : Isolated n) (m : Nat) : compose? n m = none := by
  simp [compose?, hn.unbased]

/-- An isolated code point composes with nothing before it. -/
theorem compose?_right (hn : Isolated n) (m : Nat) : compose? m n = none := by
  have hlt : n < firstMark := Nat.lt_trans hn.undecomposed (by decide)
  simp [compose?, hlt]

end Isolated

/-! ## Decomposition -/

private theorem insertMark_append (hn : combiningClass n = 0) (m : Nat) (front back : List Nat) :
    insertMark m (front ++ n :: back) = insertMark m front ++ n :: back := by
  induction front with
  | nil => simp [insertMark, hn]
  | cons p front ih =>
    -- a mark moves on while the class of what it meets is higher than its own
    simp only [List.cons_append, insertMark]
    split
    · rw [ih, List.cons_append]
    · rfl

private theorem insertMark_starter (hn : combiningClass n = 0) (text : List Nat) :
    insertMark n text = n :: text := by
  cases text with
  | nil => rfl
  | cons p text => simp [insertMark, hn]

/-- No marks move past a starter. -/
theorem foldl_insertMark_append (hn : combiningClass n = 0) (marks front back : List Nat) :
    marks.foldl (fun acc m => insertMark m acc) (front ++ n :: back) =
      marks.foldl (fun acc m => insertMark m acc) front ++ n :: back := by
  induction marks generalizing front with
  | nil => rfl
  | cons m marks ih => rw [List.foldl_cons, List.foldl_cons, insertMark_append hn, ih]

/-- The decomposition of a text falls apart at an isolated code point. -/
theorem decomposed_append_cons (hn : Isolated n) (before after : List Nat) :
    decomposed (before ++ n :: after) = decomposed before ++ n :: decomposed after := by
  have hclass : combiningClass n = 0 := hn.combiningClass_eq
  have hfold := foldl_insertMark_append hclass (after.flatMap decompose) []
    ((before.flatMap decompose).foldl (fun acc m => insertMark m acc) [])
  rw [List.nil_append] at hfold
  simp only [decomposed, List.flatMap_append, List.flatMap_cons, hn.decompose_eq,
    List.foldl_append, List.foldl_cons, insertMark_starter hclass, hfold,
    List.reverse_append, List.reverse_cons, List.append_assoc, List.cons_append, List.nil_append]

/-! ## Composition -/

namespace Composing

/-- The same reading behind an isolated code point and what is before it, in reverse. -/
def behind (c : Composing) (n : Nat) (before : List Nat) : Composing :=
  match c.starter with
  | none => ⟨before, some n, c.done⟩
  | some s => ⟨c.done ++ n :: before, some s, c.marks⟩

variable (c : Composing) {before : List Nat}

/-- What was read behind an isolated code point comes after it. -/
theorem flush_behind : (c.behind n before).flush = c.flush ++ n :: before := by
  rcases c with ⟨done, _ | s, marks⟩
  · rfl
  · simp [behind, flush]

/-- To keep a code point is the same behind an isolated one. -/
theorem keep_behind (m : Nat) : (c.behind n before).keep m = (c.keep m).behind n before := by
  rw [keep, keep, flush_behind]
  rcases c with ⟨done, _ | s, marks⟩
  · by_cases hclass : combiningClass m = 0 <;> simp [behind, flush, hclass]
  · by_cases hclass : combiningClass m = 0 <;> simp [behind, flush, hclass]

/-- To read a code point is the same behind an isolated one. -/
theorem step_behind (hn : Isolated n) (m : Nat) :
    (c.behind n before).step m = (c.step m).behind n before := by
  have hkeep : (c.behind n before).keep m = (c.keep m).behind n before := keep_behind c m
  rcases c with ⟨done, _ | s, marks⟩
  -- the isolated code point is the starter as long as there is none behind it
  · simp only [step, behind, hn.compose?_left, ite_self] at hkeep ⊢
    exact hkeep
  · have hreaches : reaches ⟨done ++ n :: before, some s, marks⟩ m =
        reaches ⟨done, some s, marks⟩ m := rfl
    simp only [step, behind, hreaches] at hkeep ⊢
    cases reaches ⟨done, some s, marks⟩ m with
    | false => exact hkeep
    | true =>
      cases compose? s m with
      | none => exact hkeep
      | some p => rfl

/-- To read a text is the same behind an isolated code point. -/
theorem foldl_behind (hn : Isolated n) (text : List Nat) :
    text.foldl step (c.behind n before) = (text.foldl step c).behind n before := by
  induction text generalizing c with
  | nil => rfl
  | cons m text ih => rw [List.foldl_cons, List.foldl_cons, step_behind c hn, ih]

/-- An isolated code point is read as a starter of its own. -/
theorem step_isolated (hn : Isolated n) : c.step n = behind ⟨[], none, []⟩ n c.flush := by
  have hkeep : c.keep n = behind ⟨[], none, []⟩ n c.flush := by
    rw [keep, if_pos hn.combiningClass_eq]
    rfl
  rw [step]
  cases hstarter : c.starter with
  | none => exact hkeep
  | some s => simp only [hn.compose?_right, ite_self, hkeep]

end Composing

/-- The composed normal form of a text falls apart at an isolated code point. -/
theorem composed_append_cons (hn : Isolated n) (before after : List Nat) :
    composed (before ++ n :: after) = composed before ++ n :: composed after := by
  simp only [composed, decomposed_append_cons hn, List.foldl_append, List.foldl_cons,
    Composing.step_isolated _ hn, Composing.foldl_behind _ hn, Composing.flush_behind,
    List.reverse_append, List.reverse_cons, List.append_assoc, List.cons_append, List.nil_append]

end

end IdentityGateway.Unicode
