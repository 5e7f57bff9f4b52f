import IdentityGateway.Proofs.Json.Forms

/-!
# Parts of containers

The readers of the marks of lists and objects find the next part behind the gap before it, and the
end behind blanks, and nowhere else.
-/

namespace IdentityGateway.Json

open Byte

section

variable {bs rest gap before : List UInt8} {first : Bool}

/-! ## Keys -/

/-- A key is found behind a gap. -/
theorem nextKey_gap (hgap : Gap first gap) (bs : List UInt8) :
    nextKey first (gap ++ quote :: bs) = .ok (true, bs) := by
  cases hgap with
  | first hblanks =>
    simp only [nextKey, skipBlanks_append_cons hblanks (show isBlank quote = false from rfl),
      if_neg (show quote ≠ closeObject by decide), if_true]
  | next hbefore hbehind =>
    simp only [nextKey, List.append_assoc, List.cons_append,
      skipBlanks_append_cons hbefore (show isBlank comma = false from rfl),
      skipBlanks_append_cons hbehind (show isBlank quote = false from rfl),
      if_neg (show comma ≠ closeObject by decide), Bool.false_eq_true, if_false, if_true]

/-- No key is found at the end of an object. -/
theorem nextKey_end (hbefore : AllBlank before) (first : Bool) (bs : List UInt8) :
    nextKey first (before ++ closeObject :: bs) = .ok (false, closeObject :: bs) := by
  simp only [nextKey, skipBlanks_append_cons hbefore (show isBlank closeObject = false from rfl),
    if_true]

/-- What is found as a key stands behind a gap. -/
theorem exists_gap_of_nextKey (h : nextKey first bs = .ok (true, rest)) :
    ∃ gap, bs = gap ++ quote :: rest ∧ Gap first gap := by
  unfold nextKey at h
  split at h
  · cases h
  next b tail hskip =>
  obtain ⟨before, rfl, hbefore, -⟩ := exists_blanks hskip
  split at h
  · cases h
  split at h
  · next hfirst =>
    subst hfirst
    split at h
    · next hb =>
      cases h
      exact ⟨before, by rw [hb], .first hbefore⟩
    · cases h
  next hfirst =>
  obtain rfl := Bool.not_eq_true _ ▸ hfirst
  split at h
  · next hb =>
    split at h
    · cases h
    next c tail' hskip' =>
    obtain ⟨behind, rfl, hbehind, -⟩ := exists_blanks hskip'
    split at h
    · next hc =>
      cases h
      exact ⟨before ++ comma :: behind, by rw [hb, hc]; simp, .next hbefore hbehind⟩
    · split at h <;> cases h
  · cases h

/-- Where no key is found, the object ends. -/
theorem exists_end_of_nextKey (h : nextKey first bs = .ok (false, rest)) :
    ∃ before tail, bs = before ++ rest ∧ rest = closeObject :: tail ∧ AllBlank before := by
  unfold nextKey at h
  split at h
  · cases h
  next b tail hskip =>
  obtain ⟨before, rfl, hbefore, -⟩ := exists_blanks hskip
  split at h
  · next hb =>
    cases h
    exact ⟨before, tail, rfl, by rw [hb], hbefore⟩
  split at h
  · split at h <;> cases h
  split at h
  · split at h
    · cases h
    · split at h
      · cases h
      · split at h <;> cases h
  · cases h

/-! ## Elements -/

/-- An element is found behind a gap. -/
theorem nextItem_gap {b : UInt8} (hgap : Gap first gap) (hb : isBlank b = false)
    (hclose : b ≠ closeList) (bs : List UInt8) :
    nextItem first (gap ++ b :: bs) = .ok (true, b :: bs) := by
  cases hgap with
  | first hblanks =>
    simp only [nextItem, skipBlanks_append_cons hblanks hb, if_neg hclose, if_true]
  | next hbefore hbehind =>
    simp only [nextItem, List.append_assoc, List.cons_append,
      skipBlanks_append_cons hbefore (show isBlank comma = false from rfl),
      skipBlanks_append_cons hbehind hb, if_neg hclose,
      if_neg (show comma ≠ closeList by decide), Bool.false_eq_true, if_false, if_true]

/-- No element is found at the end of a list. -/
theorem nextItem_closeList (first : Bool) (bs : List UInt8) :
    nextItem first (closeList :: bs) = .ok (false, closeList :: bs) := rfl

/-- No element is found at the end of a list. -/
theorem nextItem_end (hbefore : AllBlank before) (first : Bool) (bs : List UInt8) :
    nextItem first (before ++ closeList :: bs) = .ok (false, closeList :: bs) := by
  simp only [nextItem, skipBlanks_append_cons hbefore (show isBlank closeList = false from rfl),
    if_true]

/-- What is found as an element stands behind a gap. -/
theorem exists_gap_of_nextItem (h : nextItem first bs = .ok (true, rest)) :
    ∃ gap, bs = gap ++ rest ∧ Gap first gap := by
  unfold nextItem at h
  split at h
  · cases h
  next b tail hskip =>
  obtain ⟨before, rfl, hbefore, -⟩ := exists_blanks hskip
  split at h
  · cases h
  split at h
  · next hfirst =>
    subst hfirst
    cases h
    exact ⟨before, rfl, .first hbefore⟩
  next hfirst =>
  obtain rfl := Bool.not_eq_true _ ▸ hfirst
  split at h
  · next hb =>
    split at h
    · cases h
    next c tail' hskip' =>
    obtain ⟨behind, rfl, hbehind, -⟩ := exists_blanks hskip'
    split at h
    · cases h
    · cases h
      exact ⟨before ++ comma :: behind, by rw [hb]; simp, .next hbefore hbehind⟩
  · cases h

/-- Where no element is found, the list ends. -/
theorem exists_end_of_nextItem (h : nextItem first bs = .ok (false, rest)) :
    ∃ before tail, bs = before ++ rest ∧ rest = closeList :: tail ∧ AllBlank before := by
  unfold nextItem at h
  split at h
  · cases h
  next b tail hskip =>
  obtain ⟨before, rfl, hbefore, -⟩ := exists_blanks hskip
  split at h
  · next hb =>
    cases h
    exact ⟨before, tail, rfl, by rw [hb], hbefore⟩
  split at h
  · cases h
  split at h
  · split at h
    · cases h
    · split at h <;> cases h
  · cases h

/-! ## Ends -/

/-- A list ends behind blanks. -/
theorem closeItems_eq_none_iff :
    closeItems bs = (none, rest) ↔
      ∃ before, bs = before ++ closeList :: rest ∧ AllBlank before := by
  constructor
  · intro h
    unfold closeItems at h
    split at h
    · cases h
    next b tail hskip =>
    obtain ⟨before, rfl, hbefore, -⟩ := exists_blanks hskip
    split at h
    · next hb =>
      cases h
      exact ⟨before, by rw [hb], hbefore⟩
    split at h
    · simp only at h
      split at h
      · split at h <;> cases h
      · cases h
    · cases h
  · rintro ⟨before, rfl, hbefore⟩
    simp only [closeItems,
      skipBlanks_append_cons hbefore (show isBlank closeList = false from rfl), if_true]

/-- An object ends behind blanks. -/
theorem exists_end_of_closeMembers (h : closeMembers bs = (none, rest)) :
    ∃ before, bs = before ++ closeObject :: rest ∧ AllBlank before := by
  unfold closeMembers at h
  split at h
  · cases h
  next b tail hskip =>
  obtain ⟨before, rfl, hbefore, -⟩ := exists_blanks hskip
  split at h
  · next hb =>
    cases h
    exact ⟨before, by rw [hb], hbefore⟩
  split at h <;> cases h

end

end IdentityGateway.Json
