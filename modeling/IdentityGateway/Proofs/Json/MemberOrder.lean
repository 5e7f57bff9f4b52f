import IdentityGateway.Proofs.Json.Parsing
import Mathlib.Data.String.Basic

/-!
# The order of members

A text gives the members of an object in an order. What is written for a value gives them in the
order of the value. If this is the order of the keys, the value is held as it was written.
-/

namespace IdentityGateway.Json

/-- A text of a value without fractions, with the members of objects in the order of the text. -/
inductive ValueText : List UInt8 → Value → Prop
  | scalar {text : List UInt8} {v : Value} (hwrites : Writes text v) : ValueText text v
  | list {text : List UInt8} {items : List (List UInt8 × Value)}
      (htext : ListText text (items.map (·.1)))
      (hitems : ∀ item ∈ items, ValueText item.1 item.2) : ValueText text (.array (items.map (·.2)))
  | object {text : List UInt8} {ms : List (String × (List UInt8 × Value))}
      (htext : ObjectText text (ms.map fun m => (m.1, m.2.1)))
      (hmembers : ∀ m ∈ ms, ValueText m.2.1 m.2.2) :
      ValueText text (.object (ms.map fun m => (m.1, m.2.2)))

namespace Value

variable {levels : Nat} {items : List Value} {acc ms : List (String × Value)} {key : String}

/-! ## Writing -/

/-- The text written for elements is the text of each after the other. -/
theorem series_itemBytes (items : List Value) (first : Bool) :
    Series Eq first (items.map bytes) (itemBytes first items) := by
  induction items generalizing first with
  | nil => exact .done .nil
  | cons v items ih =>
    rw [itemBytes_cons]
    exact .cons (gap_separatorBytes first) rfl (ih false)

/-- The text written for a list is that of its elements. -/
theorem listText_bytes (hitems : ∀ v ∈ items, v.Faithful levels) :
    ListText (Value.array items).bytes (items.map bytes) := by
  rw [bytes_array]
  refine .elements (series_itemBytes items true) ?_
  exact List.forall_mem_map.mpr fun v hv => (hitems v hv).valueForm

/-- The writer puts out a text of the value in the sense of the grammar. -/
theorem Faithful.valueText {v : Value} (hv : v.Faithful levels) : ValueText v.bytes v := by
  induction hv with
  | scalar hv => exact .scalar hv.writes
  | @array levels items hitems ih =>
    have htext : ListText (Value.array items).bytes
        ((items.map fun v => (v.bytes, v)).map (·.1)) := by
      rw [List.map_map]
      exact listText_bytes hitems
    have hlist := ValueText.list htext (List.forall_mem_map.mpr ih)
    simpa only [List.map_map, Function.comp_def, List.map_id'] using hlist
  | @object levels ms hmembers ih =>
    have htext : ObjectText (Value.object ms).bytes
        ((ms.map fun m => (m.1, (m.2.bytes, m.2))).map fun m => (m.1, m.2.1)) := by
      rw [List.map_map]
      exact objectText_bytes hmembers
    have hobject := ValueText.object htext (List.forall_mem_map.mpr ih)
    simpa only [List.map_map, Function.comp_def, Prod.eta, List.map_id'] using hobject

/-! ## Holding -/

/-- To be held changes no list whose elements it does not change. -/
theorem heldItems_eq_self (hitems : ∀ v ∈ items, v.held = v) : heldItems items = items := by
  induction items with
  | nil => rfl
  | cons v items ih =>
    obtain ⟨hv, hothers⟩ := List.forall_mem_cons.mp hitems
    rw [heldItems, hv, ih hothers]

/-- A member with a key behind all others is held at the end. -/
theorem insertMember_eq_append {v : Value} (hkey : ∀ m ∈ acc, m.1 < key) :
    insertMember key v acc = acc ++ [(key, v)] := by
  induction acc with
  | nil => rfl
  | cons m acc ih =>
    obtain ⟨hm, hothers⟩ := List.forall_mem_cons.mp hkey
    obtain ⟨k, w⟩ := m
    rw [insertMember, if_neg (ne_of_lt hm), if_neg (lt_asymm hm), ih hothers, List.cons_append]

/-- Members in the order of their keys are held as they are if the value of each is. -/
theorem heldMembers_eq_append (hordered : (acc ++ ms).Pairwise fun a b => a.1 < b.1)
    (hmembers : ∀ m ∈ ms, m.2.held = m.2) : heldMembers acc ms = acc ++ ms := by
  induction ms generalizing acc with
  | nil => exact (List.append_nil acc).symm
  | cons m ms ih =>
    obtain ⟨key, v⟩ := m
    obtain ⟨hv, hothers⟩ := List.forall_mem_cons.mp hmembers
    have hkey : ∀ m ∈ acc, m.1 < key :=
      fun m hm => (List.pairwise_append.mp hordered).2.2 m hm (key, v) List.mem_cons_self
    rw [List.append_cons] at hordered
    rw [heldMembers, hv, insertMember_eq_append hkey, ih hordered hothers]
    exact (List.append_cons acc (key, v) ms).symm

end Value

end IdentityGateway.Json
