import IdentityGateway.Proofs.Text.Case
import IdentityGateway.Proofs.Text.Decimal
import IdentityGateway.Proofs.Text.Separator

/-!
# Texts with blanks around them

Blanks around a text do not count where it is trimmed, as a whole or piece by piece between
separators that are no blanks. A text with a blank is neither a numeral nor a name without blanks.
-/

namespace IdentityGateway.Text

/-- Blanks to stand before and behind a text, which most settings are forgiven. -/
structure Margins where
  before : List Char
  after : List Char
  blank_before : ∀ c ∈ before, isBlank c = true
  blank_after : ∀ c ∈ after, isBlank c = true

namespace Margins

/-- The margins are not empty, so that a text does change with them. -/
def Some (m : Margins) : Prop :=
  m.before ++ m.after ≠ []

/-- A text with blanks around it. -/
def around (m : Margins) (text : String) : String :=
  String.ofList (m.before ++ text.toList ++ m.after)

end Margins

section

variable {separator : Char} {before after : List Char}

/-- What is left of a text does not depend on the blanks around it. -/
theorem trimChars_append_blanks (hbefore : ∀ c ∈ before, isBlank c = true)
    (hafter : ∀ c ∈ after, isBlank c = true) (cs : List Char) :
    trimChars (before ++ cs ++ after) = trimChars cs := by
  obtain ⟨first, last, hfirst, hlast, hsplit⟩ := exists_margins cs
  have hassoc : before ++ cs ++ after = (before ++ first) ++ trimChars cs ++ (last ++ after) := by
    nth_rewrite 1 [hsplit]
    simp only [List.append_assoc]
  rw [hassoc]
  exact trimChars_margins (List.forall_mem_append.mpr ⟨hbefore, hfirst⟩)
    (List.forall_mem_append.mpr ⟨hlast, hafter⟩) (trimmed_trimChars cs)

/-- What is left of the pieces of a text does not depend on the blanks before the text. -/
theorem map_trimChars_splitAt_append (hseparator : isBlank separator = false)
    (hbefore : ∀ c ∈ before, isBlank c = true) (cs : List Char) :
    (splitAt separator (before ++ cs)).map trimChars = (splitAt separator cs).map trimChars := by
  induction before with
  | nil => rfl
  | cons c before ih =>
    obtain ⟨hc, hbefore⟩ := List.forall_mem_cons.mp hbefore
    have hne : c ≠ separator := by
      rintro rfl
      cases hc.symm.trans hseparator
    have hblank : ∀ piece, trimChars (c :: piece) = trimChars piece := fun piece => by
      simpa using trimChars_append_blanks (List.forall_mem_singleton.mpr hc)
        (List.forall_mem_nil _) piece
    rw [← ih hbefore, List.cons_append, splitAt, if_neg hne]
    cases hpieces : splitAt separator (before ++ cs) with
    | nil =>
      rw [splitAt_eq_splitOn, List.splitOn_eq_splitOnP] at hpieces
      exact absurd hpieces (List.splitOnP_ne_nil _ _)
    | cons piece pieces => simp only [List.map_cons, hblank]

/-- A text with blanks behind it has the pieces of the text, the last one with the blanks. -/
theorem forall₂_splitAt_append (hseparator : isBlank separator = false)
    (hafter : ∀ c ∈ after, isBlank c = true) (cs : List Char) :
    List.Forall₂ (fun padded piece => ∃ blanks, (∀ c ∈ blanks, isBlank c = true) ∧
      padded = piece ++ blanks) (splitAt separator (cs ++ after)) (splitAt separator cs) := by
  induction cs with
  | nil =>
    have hnone : separator ∉ after := by
      intro hmem
      cases (hafter _ hmem).symm.trans hseparator
    have hpieces : splitAt separator after = [after] := by
      rw [splitAt_eq_splitOn]
      simpa using List.splitOn_intercalate separator (List.forall_mem_singleton.mpr hnone)
        (List.cons_ne_nil after [])
    rw [List.nil_append, hpieces]
    exact .cons ⟨after, hafter, rfl⟩ .nil
  | cons c cs ih =>
    rw [List.cons_append, splitAt, splitAt]
    generalize splitAt separator (cs ++ after) = padded, splitAt separator cs = pieces at ih ⊢
    split
    · exact .cons ⟨[], List.forall_mem_nil _, rfl⟩ ih
    · cases ih with
      | nil => exact .cons ⟨[], List.forall_mem_nil _, rfl⟩ .nil
      | cons hpiece hpieces =>
        obtain ⟨blanks, hblanks, rfl⟩ := hpiece
        exact .cons ⟨blanks, hblanks, rfl⟩ hpieces

/-- What is left of the pieces of a text does not depend on the blanks around the text. -/
theorem map_trimChars_splitAt (hseparator : isBlank separator = false)
    (hbefore : ∀ c ∈ before, isBlank c = true) (hafter : ∀ c ∈ after, isBlank c = true)
    (cs : List Char) :
    (splitAt separator (before ++ cs ++ after)).map trimChars =
      (splitAt separator cs).map trimChars := by
  rw [List.append_assoc, map_trimChars_splitAt_append hseparator hbefore, ← List.forall₂_eq_eq_eq,
    List.forall₂_map_left_iff, List.forall₂_map_right_iff]
  refine (forall₂_splitAt_append hseparator hafter cs).imp ?_
  rintro _ piece ⟨blanks, hblanks, rfl⟩
  exact trimChars_append_blanks (List.forall_mem_nil _) hblanks piece

end

namespace Margins

variable (m : Margins) (text : String)

/-- A text with blanks around it is trimmed to the same. -/
theorem trim_around : trim (m.around text) = trim text := by
  rw [trim, trim, around, String.toList_ofList,
    trimChars_append_blanks m.blank_before m.blank_after]

variable {m}

/-- Without blanks nothing is put around a text. -/
theorem around_eq_self (h : ¬ m.Some) : m.around text = text := by
  obtain ⟨hbefore, hafter⟩ := List.append_eq_nil_iff.mp (not_ne_iff.mp h)
  rw [around, hbefore, hafter, List.nil_append, List.append_nil, String.ofList_toList]

/-- A text with blanks around it has a blank. -/
theorem Some.exists_blank (h : m.Some) :
    ∃ c ∈ (m.around text).toList, isBlank c = true := by
  obtain ⟨c, hc⟩ := List.exists_mem_of_ne_nil _ h
  rw [around, String.toList_ofList]
  rcases List.mem_append.mp hc with hc | hc
  · exact ⟨c, List.mem_append_left _ (List.mem_append_left _ hc), m.blank_before c hc⟩
  · exact ⟨c, List.mem_append_right _ hc, m.blank_after c hc⟩

end Margins

/-- A text with a blank is no numeral. -/
theorem natBelow?_eq_none_of_blank {bound : Nat} {s : String}
    (hblank : ∃ c ∈ s.toList, isBlank c = true) : natBelow? bound s = none := by
  rw [Option.eq_none_iff_forall_not_mem]
  intro n hn
  obtain ⟨⟨ds, hs, -, hdigits, -⟩, -⟩ := natBelow?_eq_some_iff.mp hn
  obtain ⟨c, hc, hblank⟩ := hblank
  have hdigit : ∀ d ∈ ds, isBlank d = false := fun d hd => isBlank_of_isDigit (hdigits d hd)
  rcases hs with rfl | hs
  · cases hblank.symm.trans (hdigit c hc)
  · rw [hs] at hc
    rcases List.mem_cons.mp hc with rfl | hc
    · cases hblank
    · cases hblank.symm.trans (hdigit c hc)

/-- A text with a blank is no name without blanks, in any case. -/
theorem lowerAscii_ne_of_blank {s name : String}
    (hname : (name.toList.all fun c => !isBlank c) = true)
    (hblank : ∃ c ∈ s.toList, isBlank c = true) : lowerAscii s ≠ name := by
  rintro rfl
  obtain ⟨c, hc, hblank⟩ := hblank
  rw [lowerAscii, String.toList_ofList, List.all_eq_true] at hname
  have hlower := hname c.toLower (List.mem_map_of_mem hc)
  rw [isBlank_toLower, hblank] at hlower
  cases hlower

end IdentityGateway.Text
