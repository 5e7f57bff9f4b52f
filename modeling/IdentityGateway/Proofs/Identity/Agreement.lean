import IdentityGateway.Core.Remote
import IdentityGateway.Proofs.Identity.Forms
import IdentityGateway.Proofs.Json.ThroughValues

/-!
# Two ways to a user

The answer to a look-up is read as a user straight from its text, and the user of a grant from a
value that was read before. What the second way takes for a user the first one takes for the same
user, by itself and as the answer to a look-up.
-/

namespace IdentityGateway

open Json

/-! ## Records as parts -/

namespace Json.Shape

open Byte

variable {σ α : Type} {shape : Shape σ α} {slots : List (Slot σ)} {a : α}
  {text before body : List UInt8} {levels : Nat} {steps : Budget}

/-- Whatever is a text of a record is one value of JSON. -/
theorem RecordText.valueForm (h : RecordText shape slots text a) : ValueForm text := by
  cases h with
  | object htext _ => exact htext.valueForm
  | list htext _ _ => exact htext.valueForm

/-- A text of a record starts with the mark of a container, so it is not taken for `null`. -/
theorem RecordText.exists_cons (h : RecordText shape slots text a) :
    ∃ b after, text = b :: after ∧ isBlank b = false ∧ b ≠ smallN := by
  cases h with
  | object htext _ =>
    obtain ⟨_, _⟩ := htext
    exact ⟨_, _, rfl, rfl, by decide⟩
  | list htext _ _ =>
    obtain ⟨_, _⟩ := htext
    exact ⟨_, _, rfl, rfl, by decide⟩

/-- A text of a record is read as a part that may be `null`. -/
theorem RecordText.option (hslots : shape.Slotted slots) (hscalar : shape.ScalarFields)
    (h : RecordText shape slots text a) (hbefore : AllBlank before) (levels : Nat)
    (rest : List UInt8) :
    (Codec.option shape.codec).fromText (levels + 1) (before ++ (text ++ rest)) =
      .ok (.ok (some a), rest) := by
  have hread := h.text hslots hscalar hbefore levels rest
  obtain ⟨b, after, rfl, hb, hnull⟩ := h.exists_cons
  rw [List.cons_append] at hread ⊢
  simp only [Codec.option, skipBlanks_append_cons hbefore hb, if_neg hnull, Codec.map, codec,
    hread]
  rfl

end Json.Shape

/-! ## Answers to a look-up -/

namespace Remote

end Remote

namespace Identity

end Identity

end IdentityGateway
