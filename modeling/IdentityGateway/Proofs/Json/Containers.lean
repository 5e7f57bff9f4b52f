import IdentityGateway.Proofs.Json.Parts
import IdentityGateway.Proofs.Json.Skipping

/-!
# Texts of objects and lists

An object is the text of its members, and a list that of its elements. The readers find every part
where it was written, so a text has its parts in one way only.
-/

namespace IdentityGateway.Json

open Byte

/-- Bytes are a text with blanks around it. -/
def Padded (bs text : List UInt8) : Prop :=
  ∃ before after, bs = before ++ (text ++ after) ∧ AllBlank before ∧ AllBlank after

/-- A text of an object: each member has a key that is a text, and the text of some value. -/
inductive ObjectText : List UInt8 → List (String × List UInt8) → Prop
  | members {ms : List (String × List UInt8)} {body : List UInt8}
      (hbody : Series (MemberText Spells) true ms body) (hforms : ∀ m ∈ ms, ValueForm m.2) :
      ObjectText (openObject :: (body ++ [closeObject])) ms

/-- A text of a list: each element is the text of some value. -/
inductive ListText : List UInt8 → List (List UInt8) → Prop
  | elements {items : List (List UInt8)} {body : List UInt8} (hbody : Series Eq true items body)
      (hforms : ∀ item ∈ items, ValueForm item) :
      ListText (openList :: (body ++ [closeList])) items

section

variable {bs text text' rest rest' body body' : List UInt8} {first : Bool}
  {ms ms' : List (String × List UInt8)}

/-! ## Forms -/

/-- A text may have no blanks around it. -/
theorem Padded.refl (text : List UInt8) : Padded text text :=
  ⟨[], [], by simp, .nil, .nil⟩

/-- The grammar does not mind what a key says. -/
theorem MemberText.anyKey {m : String × List UInt8} (h : MemberText Spells m text) :
    MemberText AnyKey ((), m.2) text := by
  cases h with
  | parts hkey hbefore hbehind =>
    exact .parts (show AnyKey _ () from hkey.stringForm) hbefore hbehind

/-- A text with the members of an object is one value of the grammar. -/
theorem ObjectText.valueForm (h : ObjectText text ms) : ValueForm text := by
  cases h with
  | members hbody hforms =>
    have hmap := hbody.map fun m _ _ hm => (hm.anyKey : MemberText AnyKey ((), m.2) _)
    refine .object hmap ?_
    rintro _ hmem
    obtain ⟨m, hm, rfl⟩ := List.mem_map.mp hmem
    exact hforms m hm

/-- A text with the elements of a list is one value of the grammar. -/
theorem ListText.valueForm {items : List (List UInt8)} (h : ListText text items) :
    ValueForm text := by
  cases h with
  | elements hbody hforms => exact .list hbody hforms

/-! ## One way to read -/

/-- A value that ends where a value may end is the same as another one that does. -/
theorem ValueForm.eq_of_append_eq (h : ValueForm text) (h' : ValueForm text')
    (hrest : EndsValue rest) (hrest' : EndsValue rest') {before before' : List UInt8}
    (hbefore : AllBlank before) (hbefore' : AllBlank before')
    (heq : before ++ (text ++ rest) = before' ++ (text' ++ rest')) :
    text = text' ∧ rest = rest' := by
  have hskip := h.skipValue hbefore hrest
  rw [heq, h'.skipValue hbefore' hrest'] at hskip
  obtain rfl := Except.ok.inj hskip
  -- the blanks before the value are the same, since the value starts with none
  obtain ⟨b, bs, rfl, hb, -⟩ := h.exists_cons
  obtain ⟨b', bs', rfl, hb', -⟩ := h'.exists_cons
  have hblanks := congrArg skipBlanks heq
  rw [List.cons_append, List.cons_append, skipBlanks_append_cons hbefore hb,
    skipBlanks_append_cons hbefore' hb', ← List.cons_append, ← List.cons_append] at hblanks
  exact ⟨List.append_cancel_right hblanks, rfl⟩

/-- Members that go on with the same bytes are the same. -/
theorem Series.members_unique (h : Series (MemberText Spells) first ms body)
    (hforms : ∀ m ∈ ms, ValueForm m.2) (h' : Series (MemberText Spells) first ms' body')
    (hforms' : ∀ m ∈ ms', ValueForm m.2)
    (heq : body ++ closeObject :: rest = body' ++ closeObject :: rest') : ms = ms' := by
  induction ms generalizing first ms' body body' with
  | nil =>
    cases h with
    | done hblanks =>
      cases h' with
      | done _ => rfl
      | cons hgap hpart _ =>
        cases hpart
        have hkey := nextKey_end hblanks first rest
        simp only [heq, List.append_assoc, List.cons_append, nextKey_gap hgap] at hkey
        cases hkey
  | cons m ms ih =>
    cases h with
    | cons hgap hpart hmore =>
      cases hpart with
      | @parts key source before behind text hsource hbefore hbehind =>
        cases h' with
        | done hblanks =>
          have hkey := nextKey_end hblanks first rest'
          simp only [← heq, List.append_assoc, List.cons_append, nextKey_gap hgap] at hkey
          cases hkey
        | cons hgap' hpart' hmore' =>
          cases hpart' with
          | @parts key' source' before' behind' text' hsource' hbefore' hbehind' =>
            obtain ⟨htext, hothers⟩ := List.forall_mem_cons.mp hforms
            obtain ⟨htext', hothers'⟩ := List.forall_mem_cons.mp hforms'
            simp only [List.append_assoc, List.cons_append] at heq
            -- both are read in the same way, first the gap, then the key, the colon and the value
            have hgaps := congrArg (nextKey first) heq
            rw [nextKey_gap hgap, nextKey_gap hgap'] at hgaps
            have hkeys := congrArg Json.string (Prod.mk.inj (Except.ok.inj hgaps)).2
            rw [string_eq_ok_iff.mpr ⟨source, rfl, hsource⟩,
              string_eq_ok_iff.mpr ⟨source', rfl, hsource'⟩] at hkeys
            obtain ⟨rfl, hcolons⟩ := Prod.mk.inj (Except.ok.inj hkeys)
            have hvalues := congrArg afterColon hcolons
            rw [afterColon_eq_ok_iff.mpr ⟨before, rfl, hbefore⟩,
              afterColon_eq_ok_iff.mpr ⟨before', rfl, hbefore'⟩] at hvalues
            have hends := hmore.endsValue (show closeObject ∈ enders by decide) rest
            have hends' := hmore'.endsValue (show closeObject ∈ enders by decide) rest'
            obtain ⟨rfl, hbodies⟩ := htext.eq_of_append_eq htext' hends hends' hbehind hbehind'
              (Except.ok.inj hvalues)
            rw [ih hmore hothers hmore' hothers' hbodies]

/-- The members of an object can be read off its text in one way only, which lets statements speak
of the members of a text. -/
theorem ObjectText.unique (h : ObjectText text ms) (h' : ObjectText text ms') : ms = ms' := by
  generalize htext : text = text' at h'
  cases h with
  | members hbody hforms =>
    cases h' with
    | members hbody' hforms' =>
      exact hbody.members_unique hforms hbody' hforms' (List.cons.inj htext).2

/-- Bytes are blanks around one value only. -/
theorem Padded.unique (h : Padded bs text) (h' : Padded bs text') (hform : ValueForm text)
    (hform' : ValueForm text') : text = text' := by
  have hends : ∀ {after : List UInt8}, AllBlank after → EndsValue after := by
    intro after hafter
    rw [← List.append_nil after]
    exact .append hafter nofun
  obtain ⟨before, after, rfl, hbefore, hafter⟩ := h
  obtain ⟨before', after', heq, hbefore', hafter'⟩ := h'
  exact (hform.eq_of_append_eq hform' (hends hafter) (hends hafter') hbefore hbefore' heq).1

end

end IdentityGateway.Json
