import IdentityGateway.Proofs.Json.Embedded
import IdentityGateway.Proofs.Json.RecordTexts

/-!
# Records through values

A text may be read as a record at once, or first as a value and this as a record. A value holds of
members with one key only the last, and those of an object in another order, but it holds each with
the text it was read from. So a record that the value of a text is read as is also read from the
text itself, unless the text is an object that gives a key twice, or it is one that another text is
embedded in, or has such a part: the value is that of the embedded text, and the record knows
nothing of it.
-/

namespace IdentityGateway.Json

section

variable {bs text : List UInt8} {v : Value}

/-- The things given under some names are changed one by one. -/
theorem givenBy_map {β γ : Type} (f : β → γ) (names : List String) (ms : List (String × β)) :
    givenBy names (ms.map fun m => (m.1, f m.2)) = (givenBy names ms).map f := by
  simp only [givenBy, List.filter_map, List.map_map]
  rfl

/-- What is given under some names is given by one of the members. -/
theorem exists_of_mem_givenBy {β : Type} {names : List String} {ms : List (String × β)} {b : β}
    (h : b ∈ givenBy names ms) : ∃ m ∈ ms, m.2 = b := by
  obtain ⟨m, hm, rfl⟩ := List.mem_map.mp h
  exact ⟨m, (List.mem_filter.mp hm).1, rfl⟩

/-- What a scalar is read as is read from its text. -/
theorem Codec.Makes.writes {α : Type} {c : Codec α} (hscalar : c.ByScalar) {a : α}
    (hparsed : Parsed EmbeddedText text v) (hplain : ¬ EmbeddedText text) (h : c.Makes Eq v a) :
    c.Makes Writes text a := by
  have hvalue := Codec.makes_eq_iff.mp h
  exact ⟨v, hparsed.writes hplain (hscalar.scalar hvalue), hvalue⟩

/-- What is held of values that are scalars is held of their texts. -/
theorem Held.writes {α : Type} {c : Codec α} (hscalar : c.ByScalar) {held : Option α}
    {read : List (List UInt8 × Value)}
    (hparsed : ∀ pair ∈ read, Parsed EmbeddedText pair.1 pair.2)
    (hplain : ∀ pair ∈ read, ¬ EmbeddedText pair.1)
    (h : Held (c.Makes Eq) (read.map (·.2)) held) :
    Held (c.Makes Writes) (read.map (·.1)) held := by
  generalize hvalues : read.map (·.2) = values at h
  cases h with
  | none =>
    obtain rfl := List.map_eq_nil_iff.mp hvalues
    exact .none
  | some hmakes =>
    obtain ⟨pair, rfl, rfl⟩ := List.map_eq_singleton_iff.mp hvalues
    exact .some (hmakes.writes hscalar (hparsed pair List.mem_cons_self)
      (hplain pair List.mem_cons_self))

namespace Shape

variable {σ α : Type} {shape : Shape σ α} {slots : List (Slot σ)} {a : α}

/-- A record that is made of the values of some members is made of their texts. -/
theorem Made.writes (hscalar : ∀ s ∈ slots, s.codec.ByScalar)
    {ms : List (String × (List UInt8 × Value))}
    (hparsed : ∀ m ∈ ms, Parsed EmbeddedText m.2.1 m.2.2) (hplain : ∀ m ∈ ms, ¬ EmbeddedText m.2.1)
    (h : shape.Made slots Eq (ms.map fun m => (m.1, m.2.2)) a) :
    shape.Made slots Writes (ms.map fun m => (m.1, m.2.1)) a := by
  obtain ⟨last, hheld, hfinish⟩ := h
  refine ⟨last, fun s hs => ?_, hfinish⟩
  have hvalues := hheld s hs
  rw [givenBy_map] at hvalues ⊢
  refine hvalues.writes (hscalar s hs) (fun pair hpair => ?_) fun pair hpair => ?_
  · obtain ⟨m, hm, rfl⟩ := exists_of_mem_givenBy hpair
    exact hparsed m hm
  · obtain ⟨m, hm, rfl⟩ := exists_of_mem_givenBy hpair
    exact hplain m hm

end Shape

end

end IdentityGateway.Json
