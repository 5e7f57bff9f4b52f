import IdentityGateway.Timestamp.Basic

/-!
# The order of points in time

Points in time are ordered by their seconds and then by their nanoseconds. A time limit that
lies ahead of one reading of the clock lies ahead of every earlier reading.
-/

namespace IdentityGateway

/-- A point in time is at most another unless the other lies before it. -/
instance : LE Timestamp := ⟨fun s t => t.before s = false⟩

instance (s t : Timestamp) : Decidable (s ≤ t) :=
  inferInstanceAs (Decidable (t.before s = false))

namespace Timestamp

/-- What lies before a limit does so with everything at most as late. -/
theorem before_of_le {s t limit : Timestamp} (hle : s ≤ t) (hbefore : t.before limit = true) :
    s.before limit = true := by
  have hle : t.before s = false := hle
  simp only [before, Bool.or_eq_true, Bool.or_eq_false_iff, Bool.and_eq_true,
    Bool.and_eq_false_iff, decide_eq_true_eq, decide_eq_false_iff_not, beq_iff_eq,
    beq_eq_false_iff_ne] at hle hbefore ⊢
  omega

end Timestamp

end IdentityGateway
