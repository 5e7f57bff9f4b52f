import IdentityGateway.Host.Punycode
import IdentityGateway.Proofs.Text.Separator

/-!
# What a bootstring label keeps

Basic code points stay: whatever stands in a label stands in its written form, and what stands in a
written form and is neither a digit nor the separator stands in the label. The numbers at the end of
a written form are made of digits only.
-/

namespace IdentityGateway.Host.Punycode

/-- A code point is a digit of the numbers in a written form. -/
def IsDigit (n : Nat) : Prop :=
  (digitValue? n).isSome = true

section

variable {n : Nat} {cs text label : List Nat}

/-! ## Writing -/

/-- Digits below the base are digits of written forms. -/
theorem isDigit_digitCode {d : Nat} (hd : d < 36) : IsDigit (digitCode d) := by
  by_cases hletter : d < 26
  · have hrange : 97 ≤ 97 + d ∧ 97 + d ≤ 122 := by omega
    simp [IsDigit, digitValue?, digitCode, hletter, hrange]
  · have hnot : ¬ (97 ≤ 22 + d ∧ 22 + d ≤ 122) := by omega
    have hrange : 48 ≤ 22 + d ∧ 22 + d ≤ 57 := by omega
    simp [IsDigit, digitValue?, digitCode, hletter, hnot, hrange]

private theorem isDigit_of_mem_numberDigits (bias k q : Nat) :
    ∀ c ∈ numberDigits bias k q, IsDigit c := by
  induction k, q using numberDigits.induct bias with
  | case1 k q t hlast =>
    -- thresholds are at most 26, far enough below the base
    have hlt : q < 36 := Nat.lt_of_lt_of_le hlast (Nat.le_trans (threshold_le k bias) (by decide))
    intro c hc
    rw [numberDigits, if_pos hlast, List.mem_singleton] at hc
    exact hc ▸ isDigit_digitCode hlt
  | case2 k q t hmore ih =>
    have hle : threshold k bias ≤ 26 := threshold_le k bias
    have hmod : (q - threshold k bias) % (36 - threshold k bias) < 36 - threshold k bias :=
      Nat.mod_lt _ (by omega)
    intro c hc
    rw [numberDigits, if_neg hmore, List.mem_cons] at hc
    rcases hc with rfl | hc
    · exact isDigit_digitCode (by omega)
    · exact ih c hc

/-- What has been written is made of digits. -/
def Encoder.Digital (e : Encoder) : Prop :=
  ∀ c ∈ e.output, IsDigit c

/-- To pass a code point writes digits only. -/
theorem Encoder.Digital.pass {e : Encoder} (h : e.Digital) (basicCount n c : Nat) :
    (e.pass basicCount n c).Digital := by
  unfold Encoder.pass
  split
  · exact h
  · split
    · intro d hd
      rcases List.mem_append.mp hd with hd | hd
      · exact isDigit_of_mem_numberDigits _ _ _ d (List.mem_reverse.mp hd)
      · exact h d hd
    · exact h

/-- To pass a text writes digits only. -/
theorem Encoder.Digital.foldl_pass {e : Encoder} (h : e.Digital) (basicCount n : Nat)
    (text : List Nat) : (text.foldl (Encoder.pass basicCount n) e).Digital := by
  induction text generalizing e with
  | nil => exact h
  | cons c text ih => exact ih (h.pass basicCount n c)

/-- A whole run writes digits only. -/
theorem Encoder.Digital.run {e : Encoder} (h : e.Digital) (label : List Nat)
    (basicCount fuel n : Nat) : (Encoder.run label basicCount fuel n e).Digital := by
  induction fuel generalizing n e with
  | zero => exact h
  | succ fuel ih =>
    rw [Encoder.run]
    cases leastFrom n label with
    | none => exact h
    | some m =>
      have hstarted : Encoder.Digital { e with delta := e.delta + (m - n) * (e.handled + 1) } := h
      refine ih ?_ (m + 1)
      exact hstarted.foldl_pass basicCount m label

/-- A written form ends with a digit, or the separator, or is empty. -/
theorem getLast?_encode (label : List Nat) :
    ∀ c ∈ (encode label).getLast?, IsDigit c ∨ c = 45 := by
  have hdigital : (Encoder.run label (label.filter (· < initialCode)).length label.length
      initialCode ⟨0, initialBias, (label.filter (· < initialCode)).length, []⟩).Digital :=
    Encoder.Digital.run (by simp [Encoder.Digital]) _ _ _ _
  intro c hc
  rw [encode, Option.mem_def, List.getLast?_append, Option.or_eq_some_iff] at hc
  rcases hc with hdigit | ⟨-, hstart⟩
  · exact .inl (hdigital c (List.mem_reverse.mp (List.mem_of_mem_getLast? hdigit)))
  · right
    split at hstart
    · cases hstart
    · simpa using hstart.symm

/-- A basic code point of a label stands in its written form. -/
theorem mem_encode (hbasic : n < initialCode) (hmem : n ∈ label) : n ∈ encode label := by
  have hfilter : n ∈ label.filter (· < initialCode) := by simp [hmem, hbasic]
  have hfull : ¬ (label.filter (· < initialCode)).isEmpty = true := by
    rw [List.isEmpty_iff]
    exact List.ne_nil_of_mem hfilter
  rw [encode, if_neg hfull]
  exact List.mem_append_left _ (List.mem_append_left _ hfilter)

/-! ## Reading -/

private theorem mem_rest_of_number? {bias sum weight k : Nat} {r : Nat × List Nat}
    (hn : ¬ IsDigit n) (hmem : n ∈ cs) (h : number? bias sum weight k cs = some r) : n ∈ r.2 := by
  induction cs generalizing sum weight k with
  | nil => cases hmem
  | cons c cs ih =>
    rw [number?] at h
    obtain ⟨d, hdigit, h⟩ := Option.bind_eq_some_iff.mp h
    have hne : n ≠ c := by
      rintro rfl
      exact hn (Option.isSome_of_eq_some hdigit)
    have hrest : n ∈ cs := (List.mem_cons.mp hmem).resolve_left hne
    dsimp only at h
    split at h
    · cases h
      exact hrest
    · exact ih hrest h

/-- Reading goes on behind a number, with one more code point. -/
theorem exists_of_insertAll {output : List Nat} {c code i bias fuel : Nat}
    (h : insertAll output code i bias (fuel + 1) (c :: cs) = some text) :
    ∃ r place code' i' bias', number? bias i 1 36 (c :: cs) = some r ∧
      insertAll (output.take place ++ code' :: output.drop place) code' i' bias' fuel r.2 =
        some text := by
  unfold insertAll at h
  obtain ⟨⟨sum, rest⟩, hnumber, h⟩ := Option.bind_eq_some_iff.mp h
  dsimp only at h
  split at h
  · cases h
  · exact ⟨_, _, _, _, _, hnumber, h⟩

/-- Numbers that are read have digits only. -/
theorem not_mem_of_insertAll {output : List Nat} {code i bias fuel : Nat} (hn : ¬ IsDigit n)
    (h : insertAll output code i bias fuel cs = some text) : n ∉ cs := by
  induction fuel generalizing output code i bias cs with
  | zero =>
    cases cs with
    | nil => exact List.not_mem_nil
    | cons c cs => cases h
  | succ fuel ih =>
    cases cs with
    | nil => exact List.not_mem_nil
    | cons c cs =>
      obtain ⟨r, _, _, _, _, hnumber, hrest⟩ := exists_of_insertAll h
      intro hmem
      exact ih hrest (mem_rest_of_number? hn hmem hnumber)

/-- What is inserted takes nothing away. -/
theorem mem_of_insertAll {output : List Nat} {code i bias fuel : Nat} (hmem : n ∈ output)
    (h : insertAll output code i bias fuel cs = some text) : n ∈ text := by
  induction fuel generalizing output code i bias cs with
  | zero =>
    cases cs with
    | nil =>
      cases h
      exact hmem
    | cons c cs => cases h
  | succ fuel ih =>
    cases cs with
    | nil =>
      cases h
      exact hmem
    | cons c cs =>
      obtain ⟨r, place, _, _, _, -, hrest⟩ := exists_of_insertAll h
      refine ih ?_ hrest
      -- the text so far is parted at the place, and both parts stay
      rw [← List.take_append_drop place output] at hmem
      rcases List.mem_append.mp hmem with hfront | hback
      · exact List.mem_append_left _ hfront
      · exact List.mem_append_right _ (List.mem_cons_of_mem _ hback)

/-- What is not the separator comes before the last one or behind it. -/
theorem mem_splitLast (hn : n ≠ 45) (hmem : n ∈ cs) :
    n ∈ (splitLast cs).1 ∨ n ∈ (splitLast cs).2 := by
  rw [splitLast]
  split
  · exact .inr hmem
  · next hlong =>
    by_cases hseparator : 45 ∈ cs
    · obtain ⟨front, tail, rfl, htail⟩ := Text.exists_last hseparator
      rw [Text.lastPiece_append htail, Text.take_before_last]
      rcases List.mem_append.mp hmem with hfront | htail'
      · exact .inl hfront
      · exact .inr ((List.mem_cons.mp htail').resolve_left hn)
    · rw [Text.lastPiece_of_not_mem hseparator] at hlong
      omega

/-- A code point of a written form that is neither a digit nor the separator stands in the label. -/
theorem mem_of_decode? (hdigit : ¬ IsDigit n) (hseparator : n ≠ 45) (hmem : n ∈ cs)
    (h : decode? cs = some text) : n ∈ text := by
  rw [decode?] at h
  dsimp only at h
  split at h
  · rcases mem_splitLast hseparator hmem with hbasic | hnumbers
    · exact mem_of_insertAll hbasic h
    · exact absurd hnumbers (not_mem_of_insertAll hdigit h)
  · cases h

end

end IdentityGateway.Host.Punycode
