import Mathlib.Data.List.TakeWhile
import IdentityGateway.Text.Blank

/-!
# Separators of a text

A text is split at its separators. One that has a separator has a last one, and what comes behind
it is what is met before the separator when the text is read backwards.
-/

namespace IdentityGateway.Text

/-- The pieces of a text are those between the occurrences of the separator. -/
theorem splitAt_eq_splitOn (separator : Char) (cs : List Char) :
    splitAt separator cs = cs.splitOn separator := by
  induction cs with
  | nil => rfl
  | cons c cs ih =>
    rw [splitAt, ih, List.splitOn_eq_splitOnP, List.splitOn_eq_splitOnP,
      List.splitOnP_cons_eq_if_modifyHead]
    by_cases hc : c = separator
    · simp [hc]
    · cases hpieces : cs.splitOnP (· == separator) with
      | nil => exact absurd hpieces (List.splitOnP_ne_nil _ _)
      | cons piece pieces => simp [hc]

/-- No piece of a text has the separator. -/
theorem not_mem_of_mem_splitAt {separator : Char} {cs piece : List Char}
    (hpiece : piece ∈ splitAt separator cs) : separator ∉ piece := by
  induction cs generalizing piece with
  | nil =>
    rw [splitAt, List.mem_singleton] at hpiece
    simp [hpiece]
  | cons c cs ih =>
    rw [splitAt] at hpiece
    split at hpiece
    · rcases List.mem_cons.mp hpiece with rfl | hrest
      · exact List.not_mem_nil
      · exact ih hrest
    · next hc =>
      have hne : separator ≠ c := fun heq => hc heq.symm
      split at hpiece
      · rw [List.mem_singleton] at hpiece
        simp [hpiece, hne]
      · next first rest hsplit =>
        rcases List.mem_cons.mp hpiece with rfl | hrest
        · have hfirst : separator ∉ first := ih (hsplit ▸ List.mem_cons_self)
          simp [hne, hfirst]
        · exact ih (hsplit ▸ List.mem_cons_of_mem _ hrest)

/-- The first piece is what comes before the first separator. -/
theorem splitAt_append {separator : Char} {front : List Char} (h : separator ∉ front)
    (back : List Char) :
    splitAt separator (front ++ separator :: back) = front :: splitAt separator back := by
  induction front with
  | nil => rw [List.nil_append, splitAt, if_pos rfl]
  | cons c front ih =>
    obtain ⟨hc, hfront⟩ := not_or.mp (mt List.mem_cons.mpr h)
    rw [List.cons_append, splitAt, if_neg (Ne.symm hc), ih hfront]

/-- A piece of a text is part of it. -/
theorem subset_of_mem_splitAt {separator : Char} {cs piece : List Char}
    (hpiece : piece ∈ splitAt separator cs) : piece ⊆ cs := by
  induction cs generalizing piece with
  | nil =>
    rw [splitAt, List.mem_singleton] at hpiece
    simp [hpiece]
  | cons c cs ih =>
    rw [splitAt] at hpiece
    split at hpiece
    · rcases List.mem_cons.mp hpiece with rfl | hrest
      · exact List.nil_subset _
      · exact List.subset_cons_of_subset c (ih hrest)
    · split at hpiece
      · obtain rfl := List.mem_singleton.mp hpiece
        exact List.cons_subset_cons c (List.nil_subset _)
      · next first rest hsplit =>
        rcases List.mem_cons.mp hpiece with rfl | hrest
        · exact List.cons_subset_cons c (ih (hsplit ▸ List.mem_cons_self))
        · exact List.subset_cons_of_subset c (ih (hsplit ▸ List.mem_cons_of_mem _ hrest))

/-- The pieces of a text are what it is made of, with separators between them. -/
theorem mem_splitAt_iff {separator : Char} {cs piece : List Char} :
    piece ∈ splitAt separator cs ↔ ∃ pieces, [separator].intercalate pieces = cs ∧
      (∀ other ∈ pieces, separator ∉ other) ∧ piece ∈ pieces := by
  constructor
  · intro hpiece
    refine ⟨splitAt separator cs, ?_, fun _ => not_mem_of_mem_splitAt, hpiece⟩
    rw [splitAt_eq_splitOn, List.intercalate_splitOn]
  · rintro ⟨pieces, rfl, hpieces, hpiece⟩
    rw [splitAt_eq_splitOn, List.splitOn_intercalate separator hpieces (List.ne_nil_of_mem hpiece)]
    exact hpiece

section

variable {α : Type} {separator : α} {cs front tail : List α}

/-- A text with a separator is split at the last one. -/
theorem exists_last (h : separator ∈ cs) :
    ∃ front tail, cs = front ++ separator :: tail ∧ separator ∉ tail := by
  obtain ⟨back, front, hsplit, hback⟩ :=
    List.eq_append_cons_of_mem (List.mem_reverse.mpr h)
  refine ⟨front.reverse, back.reverse, ?_, by simpa using hback⟩
  rw [← List.reverse_reverse cs, hsplit]
  simp

/-- What comes before the last separator is as long as what is left. -/
theorem take_before_last (front tail : List α) (separator : α) :
    (front ++ separator :: tail).take
      ((front ++ separator :: tail).length - tail.length - 1) = front := by
  have hlength : (front ++ separator :: tail).length - tail.length - 1 = front.length := by
    rw [List.length_append, List.length_cons]
    omega
  rw [hlength, List.take_left]

variable [BEq α] [LawfulBEq α]

/-- No separator is met in a text without separators. -/
theorem takeWhile_of_not_mem (h : separator ∉ cs) : cs.takeWhile (· != separator) = cs := by
  rw [List.takeWhile_eq_self_iff]
  intro c hc
  have hne : c ≠ separator := fun heq => h (heq ▸ hc)
  simpa using hne

/-- Read backwards, a text without separators is met as a whole. -/
theorem lastPiece_of_not_mem (h : separator ∉ cs) :
    (cs.reverse.takeWhile (· != separator)).reverse = cs := by
  rw [takeWhile_of_not_mem (by simpa using h), List.reverse_reverse]

/-- Read backwards, a text is met as far as the last separator. -/
theorem lastPiece_append (h : separator ∉ tail) :
    ((front ++ separator :: tail).reverse.takeWhile (· != separator)).reverse = tail := by
  have hback : separator ∉ tail.reverse := by simpa using h
  rw [List.reverse_append, List.reverse_cons, List.append_assoc, List.takeWhile_append,
    takeWhile_of_not_mem hback]
  simp

end

end IdentityGateway.Text
