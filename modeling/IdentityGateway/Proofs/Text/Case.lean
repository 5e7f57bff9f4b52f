import Mathlib.Data.Bool.AllAny
import Mathlib.Data.List.Forall2
import IdentityGateway.Proofs.Text.Blank
import IdentityGateway.Text.Decimal

/-!
# ASCII case

Lower case changes capitals only, so that all else about a character is the same in lower case:
whether it is a letter, a digit or a blank, and which mark it is.
-/

namespace IdentityGateway.Text

/-- The capital at a place of the alphabet. -/
def capital (n : Nat) : Char := Char.ofNat (65 + n)

section

variable {c d separator : Char} {cs : List Char}

/-- A character is in lower case, or is a capital. -/
theorem toLower_eq_or_capital (c : Char) : c.toLower = c ∨ ∃ n < 26, c = capital n := by
  by_cases hupper : 65 ≤ c.toNat ∧ c.toNat ≤ 90
  · right
    refine ⟨c.toNat - 65, by omega, ?_⟩
    rw [capital, Nat.add_sub_cancel' hupper.1, Char.ofNat_toNat]
  · left
    apply dif_neg
    intro hrange
    exact hupper ⟨UInt32.le_iff_toNat_le.mp hrange.1, UInt32.le_iff_toNat_le.mp hrange.2⟩

/-- What holds of the capitals in lower case, and of what is not changed, holds of every character
in lower case. -/
theorem toLower_cases {P : Char → Char → Prop} (hsame : ∀ c, P c c)
    (hcapital : ∀ n < 26, P (capital n) (capital n).toLower) (c : Char) : P c c.toLower := by
  rcases toLower_eq_or_capital c with heq | ⟨n, hn, rfl⟩
  · rw [heq]
    exact hsame c
  · exact hcapital n hn

/-- A letter or digit is one in lower case. -/
theorem isAlphanum_toLower (c : Char) : c.toLower.isAlphanum = c.isAlphanum :=
  toLower_cases (P := fun c d => d.isAlphanum = c.isAlphanum) (fun _ => rfl) (by decide) c

/-- Lower case neither makes blanks nor takes any away. -/
theorem isBlank_toLower (c : Char) : isBlank c.toLower = isBlank c :=
  toLower_cases (P := fun c d => isBlank d = isBlank c) (fun _ => rfl) (by decide) c

/-- What is in lower case stays as it is. -/
theorem toLower_toLower (c : Char) : c.toLower.toLower = c.toLower := by
  rcases toLower_eq_or_capital c with heq | ⟨n, hn, rfl⟩
  · rw [heq, heq]
  · exact (by decide : ∀ n < 26, (capital n).toLower.toLower = (capital n).toLower) n hn

/-- A text without blank margins has none in lower case. -/
theorem Trimmed.map_toLower (h : Trimmed cs) : Trimmed (cs.map Char.toLower) := by
  constructor
  · intro c hc
    rw [List.head?_map] at hc
    obtain ⟨d, hd, rfl⟩ := Option.map_eq_some_iff.mp hc
    rw [isBlank_toLower]
    exact h.first d hd
  · intro c hc
    rw [List.getLast?_map] at hc
    obtain ⟨d, hd, rfl⟩ := Option.map_eq_some_iff.mp hc
    rw [isBlank_toLower]
    exact h.last d hd

/-- A decimal digit is in lower case. -/
theorem digit?_toLower (c : Char) : digit? c.toLower = digit? c :=
  toLower_cases (P := fun c d => digit? d = digit? c) (fun _ => rfl) (by decide) c

/-- What is no letter is met in lower case where it was met before. -/
theorem toLower_eq_iff (hd : d.isAlpha = false) (c : Char) : c.toLower = d ↔ c = d := by
  have hcapital : ∀ n < 26, (capital n).isAlpha = true ∧ (capital n).toLower.isAlpha = true := by
    decide
  refine toLower_cases (P := fun c l => l = d ↔ c = d) (fun _ => Iff.rfl) ?_ c
  intro n hn
  obtain ⟨hletter, hlower⟩ := hcapital n hn
  constructor
  · rintro rfl
    rw [hlower] at hd
    cases hd
  · rintro rfl
    rw [hletter] at hd
    cases hd

/-- What is no letter is told from others the same in lower case. -/
theorem beq_toLower (hd : d.isAlpha = false) (c : Char) : (c.toLower == d) = (c == d) := by
  rw [Bool.eq_iff_iff, beq_iff_eq, beq_iff_eq, toLower_eq_iff hd]

/-- Pieces of a text in lower case are the pieces in lower case. -/
theorem splitAt_map_toLower (hseparator : separator.isAlpha = false) (cs : List Char) :
    splitAt separator (cs.map Char.toLower) =
      (splitAt separator cs).map (List.map Char.toLower) := by
  induction cs with
  | nil => rfl
  | cons c cs ih =>
    rw [List.map_cons, splitAt, splitAt, ih]
    by_cases hc : c = separator
    · rw [if_pos hc, if_pos ((toLower_eq_iff hseparator c).mpr hc)]
      rfl
    · rw [if_neg hc, if_neg (hc ∘ (toLower_eq_iff hseparator c).mp)]
      cases splitAt separator cs <;> rfl

/-- What is met first in lower case is what was met first. -/
theorem takeWhile_map_toLower {p : Char → Bool} (hp : ∀ c, p c.toLower = p c) (cs : List Char) :
    (cs.map Char.toLower).takeWhile p = (cs.takeWhile p).map Char.toLower := by
  have hcomp : p ∘ Char.toLower = p := funext hp
  rw [List.takeWhile_map, hcomp]

/-! ## Names in any case -/

/-- A text is a name in any ASCII case: each of its characters is that of the name, or the capital
of it. -/
def InAnyCase (s name : String) : Prop :=
  List.Forall₂ (fun c d => c = d ∨ c = d.toUpper) s.toList name.toList

/-- What becomes a small letter is the letter or its capital. -/
theorem eq_or_toUpper_of_toLower (c : Char) : c = c.toLower ∨ c = c.toLower.toUpper :=
  toLower_cases (P := fun c l => c = l ∨ c = l.toUpper) (fun _ => .inl rfl)
    (fun n hn => .inr ((by decide : ∀ n < 26, capital n = (capital n).toLower.toUpper) n hn)) c

/-- A text is a name in any case exactly if it is the name in lower case. The name is in lower case
itself. -/
theorem lowerAscii_eq_iff {s name : String}
    (hname : (name.toList.all fun d => d.toLower = d ∧ d.toUpper.toLower = d) = true) :
    lowerAscii s = name ↔ InAnyCase s name := by
  have hchars : ∀ {cs ds : List Char}, (∀ d ∈ ds, d.toLower = d ∧ d.toUpper.toLower = d) →
      (cs.map Char.toLower = ds ↔ List.Forall₂ (fun c d => c = d ∨ c = d.toUpper) cs ds) := by
    intro cs ds hds
    induction ds generalizing cs with
    | nil => simp
    | cons d ds ih =>
      obtain ⟨⟨hlower, hupper⟩, hrest⟩ := List.forall_mem_cons.mp hds
      cases cs with
      | nil => simp
      | cons c cs =>
        have hfirst : c.toLower = d ↔ c = d ∨ c = d.toUpper := by
          constructor
          · rintro rfl
            exact eq_or_toUpper_of_toLower c
          · rintro (rfl | rfl)
            · exact hlower
            · exact hupper
        rw [List.map_cons, List.cons.injEq, List.forall₂_cons, hfirst, ih hrest]
  rw [InAnyCase, ← hchars (List.all_iff_forall_prop.mp hname), lowerAscii, ← String.toList_inj,
    String.toList_ofList]

end

end IdentityGateway.Text
