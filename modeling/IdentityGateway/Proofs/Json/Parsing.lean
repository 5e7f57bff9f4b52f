import IdentityGateway.Proofs.Json.Containers
import IdentityGateway.Proofs.Json.Scalars
import IdentityGateway.Proofs.Json.Values

/-!
# Values and their texts

Whatever is read as a value has the form of one, and each of its parts is read from a text of its
own. An object holds its members in the order of their keys; if no key is repeated, these are the
members that were written.
-/

namespace IdentityGateway.Json

open Byte

/-- Members as they are held after they were read one by one. -/
def heldPairs {β : Type} (value : β → Value) (acc : List (String × Value))
    (ms : List (String × β)) : List (String × Value) :=
  ms.foldl (fun acc m => Value.insertMember m.1 (value m.2) acc) acc

/-- A text that is read as a value. Which fraction a number is, is left open, and so is what is
read from a text that is `Apart`. -/
inductive Parsed (Apart : List UInt8 → Prop) : List UInt8 → Value → Prop
  | scalar {text : List UInt8} {v : Value} (hwrites : Writes text v) : Parsed Apart text v
  | real {text : List UInt8} {x : Binary64} (htext : NumeralForm text) :
      Parsed Apart text (.number (.real x))
  | list {text : List UInt8} {items : List (List UInt8 × Value)}
      (htext : ListText text (items.map (·.1)))
      (hitems : ∀ item ∈ items, Parsed Apart item.1 item.2) :
      Parsed Apart text (.array (items.map (·.2)))
  | object {text : List UInt8} {ms : List (String × (List UInt8 × Value))}
      (htext : ObjectText text (ms.map fun m => (m.1, m.2.1)))
      (hmembers : ∀ m ∈ ms, Parsed Apart m.2.1 m.2.2) :
      Parsed Apart text (.object (heldPairs (·.2) [] ms))
  | apart {text : List UInt8} {v : Value} (hform : ValueForm text) (hapart : Apart text) :
      Parsed Apart text v

section

variable {Apart : List UInt8 → Prop} {bs rest text : List UInt8} {v : Value} {levels : Nat}
  {first : Bool} {steps : Budget}

/-- The reader takes nothing for a value that the grammar does not. -/
theorem Parsed.valueForm (h : Parsed Apart text v) : ValueForm text := by
  cases h with
  | scalar hwrites => exact .scalar hwrites.scalarForm
  | real htext => exact .scalar (.number htext)
  | list htext _ => exact htext.valueForm
  | object htext _ => exact htext.valueForm
  | apart hform _ => exact hform

/-- A scalar that is no fraction is read from its text, if this is not apart. -/
theorem Parsed.writes (h : Parsed Apart text v) (hplain : ¬ Apart text) (hv : v.Scalar) :
    Writes text v := by
  cases h with
  | scalar hwrites => exact hwrites
  | real _ => cases hv
  | list _ _ => cases hv
  | object _ _ => cases hv
  | apart _ hapart => exact absurd hapart hplain

/-- What a reader reads are values with their texts, and blanks before them. -/
def ReadsParsed (Apart : List UInt8 → Prop) (item : Reader Value) : Prop :=
  ∀ {bs rest : List UInt8} {v : Value}, item bs = .ok (v, rest) →
    ∃ before text, bs = before ++ (text ++ rest) ∧ AllBlank before ∧ Parsed Apart text v

/-- What is read as the elements of a list are values with their texts, up to its end. -/
theorem exists_parsedItems {item : Reader Value} (hitem : ReadsParsed Apart item)
    {acc vs : List Value} (h : items item first acc steps bs = .ok (vs, rest)) :
    ∃ (read : List (List UInt8 × Value)) (body tail : List UInt8), bs = body ++ rest ∧
      rest = closeList :: tail ∧ Series Eq first (read.map (·.1)) body ∧
      (∀ item ∈ read, Parsed Apart item.1 item.2) ∧ vs = acc.reverse ++ read.map (·.2) := by
  induction steps generalizing first acc bs with
  | nil => cases h
  | cons step steps ih =>
    rw [items] at h
    split at h
    · cases h
    · next hnext =>
      obtain ⟨rfl, rfl⟩ := Prod.mk.inj (Except.ok.inj h)
      obtain ⟨before, tail, rfl, hrest, hbefore⟩ := exists_end_of_nextItem hnext
      exact ⟨[], before, tail, rfl, hrest, .done hbefore,
        List.forall_mem_nil _, (List.append_nil _).symm⟩
    next afterGap hnext =>
    obtain ⟨gap, rfl, hgap⟩ := exists_gap_of_nextItem hnext
    split at h
    · cases h
    next v afterItem hread =>
    obtain ⟨before, text, rfl, hbefore, htext⟩ := hitem hread
    obtain ⟨read, body, tail, rfl, hrest, hbody, hall, rfl⟩ := ih h
    exact ⟨(text, v) :: read, gap ++ before ++ (text ++ body), tail, by simp, hrest,
      .cons (hgap.append hbefore) rfl hbody, List.forall_mem_cons.mpr ⟨htext, hall⟩, by simp⟩

/-- What is read as the members of an object are keys and values with their texts, up to its end. -/
theorem exists_parsedMembers {item : Reader Value} (hitem : ReadsParsed Apart item)
    {acc held : List (String × Value)}
    (h : members item first acc steps bs = .ok (held, rest)) :
    ∃ (read : List (String × (List UInt8 × Value))) (body tail : List UInt8),
      bs = body ++ rest ∧ rest = closeObject :: tail ∧
      Series (MemberText Spells) first (read.map fun m => (m.1, m.2.1)) body ∧
      (∀ m ∈ read, Parsed Apart m.2.1 m.2.2) ∧ held = heldPairs (·.2) acc read := by
  induction steps generalizing first acc bs with
  | nil => cases h
  | cons step steps ih =>
    rw [members] at h
    split at h
    · cases h
    · next hnext =>
      obtain ⟨rfl, rfl⟩ := Prod.mk.inj (Except.ok.inj h)
      obtain ⟨before, tail, rfl, hrest, hbefore⟩ := exists_end_of_nextKey hnext
      exact ⟨[], before, tail, rfl, hrest, .done hbefore, List.forall_mem_nil _,
        rfl⟩
    next afterGap hnext =>
    obtain ⟨gap, rfl, hgap⟩ := exists_gap_of_nextKey hnext
    split at h
    · cases h
    next key afterKey hstring =>
    obtain ⟨source, rfl, hsource⟩ := string_eq_ok_iff.mp hstring
    split at h
    · cases h
    next afterColon' hcolon =>
    obtain ⟨before, rfl, hbefore⟩ := afterColon_eq_ok_iff.mp hcolon
    split at h
    · cases h
    next v afterMember hread =>
    obtain ⟨behind, text, rfl, hbehind, htext⟩ := hitem hread
    obtain ⟨read, body, tail, rfl, hrest, hbody, hall, rfl⟩ := ih h
    exact ⟨(key, text, v) :: read, _, tail, by simp, hrest,
      .cons hgap (.parts hsource hbefore hbehind) hbody,
      List.forall_mem_cons.mpr ⟨htext, hall⟩, rfl⟩

/-- What is read as a scalar is a value with its text. -/
theorem exists_parsedScalar {b : UInt8}
    (h : ((scalar b bs).map fun (t, rest) => (t.value, rest)) = .ok (v, rest)) :
    ∃ text, b :: bs = text ++ rest ∧ Parsed Apart text v := by
  obtain ⟨⟨t, after⟩, hscalar, heq⟩ := exists_of_map_eq_ok h
  obtain ⟨rfl, rfl⟩ := Prod.mk.inj heq
  obtain ⟨text, htext, hform | hwrites⟩ := exists_textOf hscalar
  · exact ⟨text, htext, .real hform⟩
  · refine ⟨text, htext, ?_⟩
    cases hwrites with
    | null => exact .scalar .null
    | true => exact .scalar .true
    | false => exact .scalar .false
    | integer htext => exact .scalar (.integer htext)
    | string hsource => exact .scalar (.string hsource)

/-- A container that was read ended. -/
theorem of_closed_eq_ok {α : Type} {a a' : α} {closing : Closing}
    (h : closed a closing = .ok (a', rest)) : a = a' ∧ closing = (none, rest) := by
  obtain ⟨ended, after⟩ := closing
  cases ended with
  | some f => cases h
  | none =>
    obtain ⟨ha, hrest⟩ := Prod.mk.inj (Except.ok.inj h)
    exact ⟨ha, by rw [hrest]⟩

/-- What is read as an object after its mark is a value with its text. -/
theorem exists_parsedObject {item : Reader Value} (hitem : ReadsParsed Apart item)
    (h : plainObject item bs = .ok (v, rest)) :
    ∃ text, openObject :: bs = text ++ rest ∧ Parsed Apart text v := by
  unfold plainObject at h
  split at h
  · cases h
  next hmembers =>
  obtain ⟨rfl, hclose⟩ := of_closed_eq_ok h
  obtain ⟨read, body, tail, rfl, rfl, hbody, hall, rfl⟩ := exists_parsedMembers hitem hmembers
  obtain ⟨-, rfl⟩ := Prod.mk.inj (show (none, tail) = (none, rest) from hclose)
  have hforms : ∀ m ∈ read.map fun m => (m.1, m.2.1), ValueForm m.2 :=
    List.forall_mem_map.mpr fun m hm => (hall m hm).valueForm
  exact ⟨openObject :: (body ++ [closeObject]), by simp, .object (.members hbody hforms) hall⟩

/-- Whatever is read as a value has a text that is read as it, with blanks before it, if this is so
for objects. -/
theorem readsParsed_valueBy {object : ObjectReader}
    (hobject : ∀ item : Reader Value, ReadsParsed Apart item → ∀ {bs rest v},
      object item bs = .ok (v, rest) →
        ∃ text, openObject :: bs = text ++ rest ∧ Parsed Apart text v)
    (levels : Nat) : ReadsParsed Apart (valueBy object levels) := by
  induction levels with
  | zero =>
    intro bs rest v h
    unfold valueBy at h
    split at h
    · cases h
    next b after hskip =>
    obtain ⟨before, rfl, hbefore, -⟩ := exists_blanks hskip
    split at h
    · cases h
    split at h
    · cases h
    obtain ⟨text, heq, htext⟩ := exists_parsedScalar h
    exact ⟨before, text, by rw [heq], hbefore, htext⟩
  | succ levels ih =>
    intro bs rest v h
    unfold valueBy at h
    split at h
    · cases h
    next b after hskip =>
    obtain ⟨before, rfl, hbefore, -⟩ := exists_blanks hskip
    split at h
    · next hb =>
      subst hb
      simp only at h
      split at h
      · cases h
      next hitems =>
      obtain ⟨rfl, hclose⟩ := of_closed_eq_ok h
      obtain ⟨read, body, tail, rfl, rfl, hbody, hall, rfl⟩ := exists_parsedItems ih hitems
      obtain ⟨-, rfl⟩ := Prod.mk.inj (show (none, tail) = (none, rest) from hclose)
      have hforms : ∀ item ∈ read.map (·.1), ValueForm item :=
        List.forall_mem_map.mpr fun item hitem => (hall item hitem).valueForm
      exact ⟨before, openList :: (body ++ [closeList]), by simp, hbefore,
        .list (.elements hbody hforms) hall⟩
    split at h
    · next hb =>
      subst hb
      obtain ⟨text, heq, htext⟩ := hobject _ ih h
      exact ⟨before, text, by rw [heq], hbefore, htext⟩
    obtain ⟨text, heq, htext⟩ := exists_parsedScalar h
    exact ⟨before, text, by rw [heq], hbefore, htext⟩

/-- No text is apart where keys mean nothing. -/
theorem readsParsed_value (levels : Nat) : ReadsParsed (fun _ => False) (value levels) :=
  readsParsed_valueBy (fun _ hitem => exists_parsedObject hitem) levels

/-! ## The order of held members -/

/-- A member of a new key is held beside the others. -/
theorem insertMember_perm {key : String} {acc : List (String × Value)}
    (hkey : key ∉ acc.map (·.1)) : (Value.insertMember key v acc).Perm ((key, v) :: acc) := by
  induction acc with
  | nil => exact .refl _
  | cons m acc ih =>
    obtain ⟨k, w⟩ := m
    rw [List.map_cons, List.mem_cons, not_or] at hkey
    obtain ⟨hne, hothers⟩ := hkey
    rw [Value.insertMember, if_neg (Ne.symm hne)]
    split
    · exact .refl _
    · exact ((ih hothers).cons _).trans (.swap _ _ _)

/-- Members of different keys are held in another order. -/
theorem heldPairs_perm {β : Type} {f : β → Value} {acc : List (String × Value)}
    {ms : List (String × β)} (hkeys : (ms.map (·.1)).Nodup)
    (hacc : ∀ m ∈ ms, m.1 ∉ acc.map (·.1)) :
    (heldPairs f acc ms).Perm (ms.map (fun m => (m.1, f m.2)) ++ acc) := by
  induction ms generalizing acc with
  | nil => exact .refl _
  | cons m ms ih =>
    rw [List.map_cons, List.nodup_cons] at hkeys
    obtain ⟨hm, hothers⟩ := List.forall_mem_cons.mp hacc
    have hinsert := insertMember_perm (v := f m.2) hm
    have hacc' : ∀ m' ∈ ms, m'.1 ∉ (Value.insertMember m.1 (f m.2) acc).map (·.1) := by
      intro m' hm' hmem
      rw [(hinsert.map _).mem_iff, List.map_cons, List.mem_cons] at hmem
      rcases hmem with heq | hmem
      · exact hkeys.1 (heq ▸ List.mem_map_of_mem hm')
      · exact hothers m' hm' hmem
    refine (ih hkeys.2 hacc').trans ?_
    refine ((hinsert.append_left _).trans ?_)
    exact List.perm_middle

end

/-- A thing that is judged by its value is made of scalars if only those are accepted. -/
theorem Codec.byScalar_ofValue {α : Type} {accept : Value → Except Mismatch α}
    (haccept : ∀ v a, accept v = .ok a → v.Scalar) : (ofValue accept).ByScalar where
  scalar hvalue := haccept _ _ hvalue
  sound {levels bs rest a} htext := by
    simp only [ofValue] at htext
    split at htext
    · cases htext
    next v after hread =>
    obtain ⟨ha, rfl⟩ := Prod.mk.inj (Except.ok.inj htext)
    obtain ⟨before, text, hbs, hbefore, hparsed⟩ := readsParsed_value levels hread
    exact ⟨before, text, v, hbs, hbefore, hparsed.writes not_false (haccept v a ha), ha⟩
  complete levels before text rest v a hwrites hvalue hbefore hrest := by
    have ha : accept v = .ok a := hvalue
    simp only [ofValue, value, hwrites.value (haccept _ _ ha) plainObject levels hbefore hrest, ha]

/-! ## Texts that were written -/

section

variable {levels : Nat} {first : Bool}

/-- The text written for a value has the form of one. -/
theorem Value.Faithful.valueForm {v : Value} (hv : v.Faithful levels) : ValueForm v.bytes := by
  obtain ⟨before, text, hbytes, hbefore, htext⟩ :=
    readsParsed_value levels (hv.readsBack [] trivial)
  obtain ⟨b, after, hstart, hb, -⟩ := hv.startsValue
  rw [List.append_nil, List.append_nil, hstart] at hbytes
  cases before with
  | nil =>
    rw [hstart, hbytes]
    exact htext.valueForm
  | cons b' before =>
    obtain ⟨rfl, -⟩ := List.cons.inj hbytes
    rw [hbefore b List.mem_cons_self] at hb
    cases hb

/-- The separator that is written before a member is the gap before it. -/
theorem Value.gap_separatorBytes (first : Bool) : Gap first (Value.separatorBytes first) := by
  cases first with
  | true => exact .first .nil
  | false => exact .next .nil .nil

/-- The text written for members is the text of each after the other. -/
theorem Value.series_memberBytes (ms : List (String × Value)) (first : Bool) :
    Series (MemberText Spells) first (ms.map fun m => (m.1, m.2.bytes))
      (Value.memberBytes first ms) := by
  induction ms generalizing first with
  | nil => exact .done .nil
  | cons m ms ih =>
    obtain ⟨key, v⟩ := m
    have hkey : Spells (Text.utf8 (key.toList.flatMap escapedChar)) key :=
      standsFor_escaped key.toList
    have hmember : MemberText Spells (key, v.bytes) _ := .parts hkey .nil .nil
    have hseries := Series.cons (Value.gap_separatorBytes first) hmember (ih false)
    rw [Value.memberBytes_cons, Value.quotedBytes]
    simpa using hseries

/-- The text written for an object is that of its members. -/
theorem Value.objectText_bytes {ms : List (String × Value)}
    (hmembers : ∀ m ∈ ms, m.2.Faithful levels) :
    ObjectText (Value.object ms).bytes (ms.map fun m => (m.1, m.2.bytes)) := by
  rw [Value.bytes_object]
  refine .members (Value.series_memberBytes ms true) ?_
  exact List.forall_mem_map.mpr fun m hm => (hmembers m hm).valueForm

end

end IdentityGateway.Json
