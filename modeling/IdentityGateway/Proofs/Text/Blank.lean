import Mathlib.Data.List.DropRight
import IdentityGateway.Text.Blank

/-!
# Texts without blank margins

To trim a text is to take its blank margins away: what stands between blanks is left, and what is
left has no blank margin. Blanks and control characters together are the characters that a text of
one word does not have.
-/

namespace IdentityGateway.Text

/-- Whether a code point is a blank or a control character. -/
def isStrayCode (n : Nat) : Bool :=
  isBlankCode n || n < 0x20 || (0x7F ≤ n && n < 0xA0)

/-- Whether a character is a blank or a control character. -/
def isStray (c : Char) : Bool :=
  isStrayCode c.toNat

/-- Blanks are stray, so a text without stray characters has no blanks. -/
theorem isStray_of_isBlank {c : Char} (hc : isBlank c = true) : isStray c = true := by
  have hcode : isBlankCode c.toNat = true := hc
  simp [isStray, isStrayCode, hcode]

/-- In ASCII, the stray characters are the space, those before it, and the last one. -/
theorem isStrayCode_iff_of_ascii {n : Nat} (hn : n < 0x80) :
    isStrayCode n = true ↔ n ≤ 0x20 ∨ n = 0x7F := by
  simp only [isStrayCode, isBlankCode, Bool.or_eq_true, Bool.and_eq_true, decide_eq_true_eq,
    beq_iff_eq]
  omega

/-- A text neither starts nor ends with a blank. -/
structure Trimmed (cs : List Char) : Prop where
  first : ∀ c ∈ cs.head?, isBlank c = false
  last : ∀ c ∈ cs.getLast?, isBlank c = false

section

variable {cs before after : List Char}

/-- Read backwards, a text has no blank margins either. -/
theorem Trimmed.reverse (h : Trimmed cs) : Trimmed cs.reverse := by
  constructor
  · rw [List.head?_reverse]
    exact h.last
  · rw [List.getLast?_reverse]
    exact h.first

/-- Blanks at the front are dropped up to a text that starts with none, if that is not empty. -/
theorem dropWhile_margin (hbefore : ∀ c ∈ before, isBlank c = true)
    (hfirst : ∀ c ∈ cs.head?, isBlank c = false) :
    (before ++ cs).dropWhile isBlank = cs := by
  rw [List.dropWhile_append_of_pos hbefore]
  cases cs with
  | nil => rfl
  | cons c cs =>
    have hc : isBlank c = false := hfirst c rfl
    rw [List.dropWhile_cons_of_neg (by simp [hc])]

/-- Blanks at the front of a text are dropped the same if something that is not blank comes after
the text. -/
theorem dropWhile_append_cons {d : Char} (hd : isBlank d = false) (cs rest : List Char) :
    (cs ++ d :: rest).dropWhile isBlank = cs.dropWhile isBlank ++ d :: rest := by
  rw [List.dropWhile_append]
  split
  · next hnone =>
    rw [List.isEmpty_iff.mp hnone, List.dropWhile_cons_of_neg (by simp [hd])]
    rfl
  · rfl

/-- What is left of a text does not depend on the blanks at its front. -/
theorem trimChars_dropWhile (cs : List Char) : trimChars (cs.dropWhile isBlank) = trimChars cs := by
  rw [trimChars, trimChars, List.dropWhile_idempotent]

/-- What is left of a text is what stands between its blank margins. -/
theorem trimChars_margins (hbefore : ∀ c ∈ before, isBlank c = true)
    (hafter : ∀ c ∈ after, isBlank c = true) (h : Trimmed cs) :
    trimChars (before ++ cs ++ after) = cs := by
  have hafter' : ∀ c ∈ after.reverse, isBlank c = true := by simpa using hafter
  cases cs with
  | nil =>
    have hall : ∀ c ∈ before ++ after, isBlank c = true := by
      intro c hc
      rcases List.mem_append.mp hc with hc | hc
      · exact hbefore c hc
      · exact hafter c hc
    have hnone : (before ++ after).dropWhile isBlank = [] := List.dropWhile_eq_nil_iff.mpr hall
    rw [trimChars, List.append_nil, hnone]
    rfl
  | cons c cs =>
    have hfirst : ∀ d ∈ (c :: cs ++ after).head?, isBlank d = false := h.first
    rw [trimChars, List.append_assoc, dropWhile_margin hbefore hfirst, List.reverse_append,
      dropWhile_margin hafter' h.reverse.first, List.reverse_reverse]

/-- A text without blank margins is left as it is. -/
theorem Trimmed.trimChars_eq (h : Trimmed cs) : trimChars cs = cs := by
  simpa using trimChars_margins (List.forall_mem_nil _) (List.forall_mem_nil _) h

/-- What is left behind the blanks at the front does not start with a blank. -/
theorem first_dropWhile (cs : List Char) :
    ∀ c ∈ (cs.dropWhile isBlank).head?, isBlank c = false := by
  intro c hc
  have hnot := List.head?_dropWhile_not isBlank cs
  rw [Option.mem_def.mp hc] at hnot
  simpa using hnot

/-- Behind the blanks at the front there is what is left, and then the blanks at the back. -/
theorem dropWhile_eq_trimChars_append (cs : List Char) : cs.dropWhile isBlank =
    trimChars cs ++ ((cs.dropWhile isBlank).reverse.takeWhile isBlank).reverse := by
  rw [trimChars, ← List.reverse_append, List.takeWhile_append_dropWhile, List.reverse_reverse]

/-- A text is what is left of it with blanks around. -/
theorem exists_margins (cs : List Char) :
    ∃ before after, (∀ c ∈ before, isBlank c = true) ∧ (∀ c ∈ after, isBlank c = true) ∧
      cs = before ++ trimChars cs ++ after := by
  refine ⟨cs.takeWhile isBlank, ((cs.dropWhile isBlank).reverse.takeWhile isBlank).reverse,
    fun _ => List.mem_takeWhile_imp, ?_, ?_⟩
  · intro c hc
    exact List.mem_takeWhile_imp (List.mem_reverse.mp hc)
  · rw [List.append_assoc, ← dropWhile_eq_trimChars_append, List.takeWhile_append_dropWhile]

/-- What is left of a text is part of it. -/
theorem trimChars_subset (cs : List Char) : trimChars cs ⊆ cs := by
  obtain ⟨before, after, -, -, hsplit⟩ := exists_margins cs
  intro c hc
  rw [hsplit]
  exact List.mem_append_left after (List.mem_append_right before hc)

/-- What is left of a text has no blank margins. -/
theorem trimmed_trimChars (cs : List Char) : Trimmed (trimChars cs) := by
  have hsplit := dropWhile_eq_trimChars_append cs
  constructor
  · intro c hc
    apply first_dropWhile cs
    rw [hsplit, List.head?_append, Option.mem_def.mp hc]
    rfl
  · rw [trimChars, List.getLast?_reverse]
    exact first_dropWhile _

/-- To trim a text twice is to trim it once. -/
theorem trimChars_trimChars (cs : List Char) : trimChars (trimChars cs) = trimChars cs :=
  (trimmed_trimChars cs).trimChars_eq

end

end IdentityGateway.Text
