import IdentityGateway.Password
import IdentityGateway.Proofs.Text.Separator

/-!
# Stored passwords that read back

A stored password is read back into the parts that it was written from, as long as none of
them has the separator in it. So a stored password is taken for the password that it was made
from, and for no other if no two passwords have the same digest.
-/

namespace IdentityGateway

namespace Password

/-- A scheme that makes a text of every password, and takes it for that password only. -/
structure Scheme.Exact (scheme : Scheme) : Prop where
  stores : ∀ salt password, ∃ stored, scheme.store salt password = .ok stored
  verifies : ∀ {salt password stored}, scheme.store salt password = .ok stored →
    ∀ other, scheme.verify stored other = true ↔ other = password

variable {scheme : Scheme} {salt : List UInt8} {password other stored : String}

/-- Six bits are never written as the separator. -/
theorem sixBits_ne_separator (n : Nat) : sixBits n ≠ '$' := by
  by_cases hn : n < 63
  · have hall : ∀ n < 63, sixBits n ≠ '$' := by decide
    exact hall n hn
  · simp [sixBits, show ¬ n < 26 by omega, show ¬ n < 52 by omega, show ¬ n < 62 by omega,
      show n ≠ 62 by omega]

/-- A salt is written without the separator. -/
theorem separator_not_mem_base64 (bytes : List UInt8) : '$' ∉ base64 bytes := by
  induction bytes using base64.induct with
  | case1 => simp [base64]
  | case2 a => simp [base64, (sixBits_ne_separator _).symm]
  | case3 a b => simp [base64, (sixBits_ne_separator _).symm]
  | case4 a b c rest ih => simp [base64, (sixBits_ne_separator _).symm, ih]

/-- A stored password reads back as its salt and digest. -/
theorem Scheme.parts?_of_store {digest : List Char}
    (hlabel : ∀ piece ∈ scheme.label, '$' ∉ piece)
    (hdigest : scheme.digest (base64 salt) password = .ok digest) (hclear : '$' ∉ digest)
    (hstore : scheme.store salt password = .ok stored) :
    scheme.parts? stored = some (base64 salt, digest) := by
  have hpieces : ∀ piece ∈ [] :: scheme.label ++ [base64 salt, digest], '$' ∉ piece := by
    intro piece hpiece
    simp only [List.cons_append, List.mem_cons, List.mem_append, List.not_mem_nil, or_false]
      at hpiece
    rcases hpiece with rfl | hpiece | rfl | rfl
    · exact List.not_mem_nil
    · exact hlabel piece hpiece
    · exact separator_not_mem_base64 salt
    · exact hclear
  have hsplit : Text.splitAt '$' stored.toList = [] :: (scheme.label ++ [base64 salt, digest]) := by
    rw [Scheme.store, hdigest] at hstore
    rw [← Except.ok.inj hstore, String.toList_ofList, Text.splitAt_eq_splitOn]
    exact List.splitOn_intercalate '$' hpieces (List.cons_ne_nil _ _)
  rw [Scheme.parts?, hsplit]
  simp

/-- A scheme whose digests tell passwords apart, and leave the separator out, is exact. -/
theorem Scheme.exact_of_injective (hlabel : ∀ piece ∈ scheme.label, '$' ∉ piece)
    (hdigest : ∀ saltText password, ∃ digest,
      scheme.digest saltText password = .ok digest ∧ '$' ∉ digest)
    (hinjective : ∀ {saltText password other},
      scheme.digest saltText other = scheme.digest saltText password → other = password) :
    scheme.Exact := by
  constructor
  · intro salt password
    obtain ⟨digest, hmade, _⟩ := hdigest (base64 salt) password
    rw [Scheme.store, hmade]
    exact ⟨_, rfl⟩
  · intro salt password stored hstore other
    obtain ⟨digest, hmade, hclear⟩ := hdigest (base64 salt) password
    obtain ⟨digest', hmade', _⟩ := hdigest (base64 salt) other
    simp only [Scheme.verify, Scheme.parts?_of_store hlabel hmade hclear hstore, hmade',
      Except.toOption, beq_iff_eq, Option.some.injEq]
    constructor
    · intro hsame
      exact hinjective (by rw [hmade, hmade', hsame])
    · rintro rfl
      exact Except.ok.inj (hmade'.symm.trans hmade)

/-! ## Passwords in the clear -/

/-- A character with a mark before it, and never as the separator. -/
def markedChar (c : Char) : List Char :=
  if c = '$' then ['!', 's'] else ['.', c]

/-- Passwords kept in the clear, in marked characters. -/
def openScheme : Scheme where
  label := []
  digest _ password := .ok (password.toList.flatMap markedChar)

/-- No two texts are alike in marked characters. -/
theorem flatMap_markedChar_injective {cs ds : List Char}
    (h : cs.flatMap markedChar = ds.flatMap markedChar) : cs = ds := by
  induction cs generalizing ds with
  | nil =>
    cases ds with
    | nil => rfl
    | cons d ds =>
      rw [List.flatMap_cons, markedChar] at h
      split at h <;> cases h
  | cons c cs ih =>
    cases ds with
    | nil =>
      rw [List.flatMap_cons, markedChar] at h
      split at h <;> cases h
    | cons d ds =>
      rw [List.flatMap_cons, List.flatMap_cons, markedChar, markedChar] at h
      split at h <;> split at h <;>
        simp only [List.cons_append, List.nil_append, List.cons.injEq] at h
      · next hc hd => rw [hc, hd, ih h.2.2]
      · exact absurd h.1 (by decide)
      · exact absurd h.1 (by decide)
      · rw [h.2.1, ih h.2.2]

/-- Passwords in the clear are told apart. -/
theorem openScheme_exact : openScheme.Exact := by
  refine Scheme.exact_of_injective (by simp [openScheme]) ?_ ?_
  · intro saltText password
    refine ⟨_, rfl, ?_⟩
    intro hmem
    obtain ⟨c, _, hc⟩ := List.mem_flatMap.mp hmem
    rw [markedChar] at hc
    split at hc
    · revert hc
      decide
    · next hne => simp [Ne.symm hne] at hc
  · intro saltText password other hsame
    exact String.toList_inj.mp (flatMap_markedChar_injective (Except.ok.inj hsame))

end Password

end IdentityGateway
