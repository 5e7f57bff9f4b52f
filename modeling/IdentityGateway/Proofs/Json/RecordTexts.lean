import IdentityGateway.Proofs.Json.Containers
import IdentityGateway.Proofs.Json.Slots

/-!
# Texts of records

The texts that are read as a record, if its fields are made of scalars: an object whose members, or
an array whose elements, make the record. Members of other names may have any value, and the blanks
are free.
-/

namespace IdentityGateway.Json.Shape

open Byte

variable {σ α : Type}

/-- A text of a record: the members of an object or the elements of a list make the record. -/
inductive RecordText (shape : Shape σ α) (slots : List (Slot σ)) (text : List UInt8) (a : α) : Prop
  | object {ms : List (String × List UInt8)} (htext : ObjectText text ms)
      (hmade : shape.Made slots Writes ms a)
  | list {items : List (List UInt8)} (htext : ListText text items)
      (hfits : Fits slots items.length) (hmade : shape.Made slots Writes (labelled slots items) a)

/-- The fields of a shape are made of scalars. -/
def ScalarFields (shape : Shape σ α) : Prop :=
  ∀ field ∈ shape.fields, field.codec.ByScalar

variable {shape : Shape σ α} {levels : Nat} {first : Bool} {draft last : σ} {steps : Budget}
  {bs rest tail body : List UInt8}

/-- Fields are made of scalars if the things that are kept of them are. -/
theorem Slotted.scalarFields {slots : List (Slot σ)} (hslots : shape.Slotted slots)
    (h : ∀ s ∈ slots, s.codec.ByScalar) : shape.ScalarFields := by
  rw [ScalarFields, hslots.fields]
  intro field hfield
  obtain ⟨s, hs, rfl⟩ := List.mem_map.mp hfield
  exact (h s hs).map s.set

/-- The field that a key names is one of the fields. -/
theorem mem_fields_of_field? {key : String} {field : Field σ}
    (h : shape.field? key = some field) : field ∈ shape.fields :=
  List.mem_of_find?_eq_some h

/-- What comes of a part of a record is what was read. -/
theorem of_within_eq_ok {β : Type} {segment : Segment} {r : Except Fault β} {b : β}
    (h : within segment r = .ok b) : r = .ok b := by
  cases r with
  | error f => cases h
  | ok b' => exact h

/-! ## Objects -/

/-- A member that nobody wants is a value behind a colon. -/
theorem exists_of_memberSkip {key : String} (h : memberSkip key bs = .ok rest) :
    ∃ before behind text, bs = before ++ colon :: (behind ++ (text ++ rest)) ∧ AllBlank before ∧
      AllBlank behind ∧ ValueForm text := by
  simp only [memberSkip] at h
  split at h
  · cases h
  next after hcolon =>
  obtain ⟨before, rfl, hbefore⟩ := afterColon_eq_ok_iff.mp hcolon
  obtain ⟨behind, text, rfl, hbehind, htext⟩ := exists_valueForm (of_within_eq_ok h)
  exact ⟨before, behind, text, rfl, hbefore, hbehind, htext⟩

/-- The member of a field is the text of a scalar behind a colon. -/
theorem exists_of_memberText {key : String} {field : Field σ} {set : σ → σ}
    (hscalar : field.codec.ByScalar)
    (h : memberText levels key field bs = .ok (.ok set, rest)) :
    ∃ before behind text v, bs = before ++ colon :: (behind ++ (text ++ rest)) ∧
      AllBlank before ∧ AllBlank behind ∧ Writes text v ∧ field.codec.fromValue v = .ok set := by
  simp only [memberText] at h
  split at h
  · cases h
  next after hcolon =>
  obtain ⟨before, rfl, hbefore⟩ := afterColon_eq_ok_iff.mp hcolon
  obtain ⟨behind, text, v, rfl, hbehind, hwrites, hvalue⟩ := hscalar.sound (of_within_eq_ok h)
  exact ⟨before, behind, text, v, rfl, hbefore, hbehind, hwrites, hvalue⟩

/-- What is read as the members of an object are members that are collected, up to its end. -/
theorem exists_members (hscalar : shape.ScalarFields)
    (h : shape.membersText levels first draft steps bs = .ok (.ok last, rest)) :
    ∃ ms body tail, bs = body ++ rest ∧ rest = closeObject :: tail ∧
      Series (MemberText Spells) first ms body ∧ (∀ m ∈ ms, ValueForm m.2) ∧
      shape.Collects Writes draft ms last := by
  induction steps generalizing first draft bs with
  | nil => cases h
  | cons step steps ih =>
    rw [membersText] at h
    split at h
    · cases h
    · next hkey =>
      obtain ⟨heq, rfl⟩ := Prod.mk.inj (Except.ok.inj h)
      obtain rfl := Except.ok.inj heq
      obtain ⟨before, tail, rfl, hrest, hbefore⟩ := exists_end_of_nextKey hkey
      exact ⟨[], before, tail, rfl, hrest, .done hbefore, List.forall_mem_nil _, .nil⟩
    next afterQuote hkey =>
    obtain ⟨gap, rfl, hgap⟩ := exists_gap_of_nextKey hkey
    split at h
    · cases h
    next key afterKey hstring =>
    obtain ⟨source, rfl, hsource⟩ := string_eq_ok_iff.mp hstring
    split at h
    · next hfield =>
      split at h
      · cases h
      next afterMember hskip =>
      obtain ⟨before, behind, text, rfl, hbefore, hbehind, htext⟩ := exists_of_memberSkip hskip
      obtain ⟨ms, body, tail, rfl, hrest, hbody, hforms, hcollects⟩ := ih h
      exact ⟨(key, text) :: ms, _, tail, by simp, hrest,
        .cons hgap (.parts hsource hbefore hbehind) hbody,
        List.forall_mem_cons.mpr ⟨htext, hforms⟩, .skip hfield hcollects⟩
    next field hfield =>
    split at h
    · cases h
    next hfree =>
    split at h
    · cases h
    · cases h
    next set afterMember hmember =>
    obtain ⟨before, behind, text, v, rfl, hbefore, hbehind, hwrites, hvalue⟩ :=
      exists_of_memberText (hscalar field (mem_fields_of_field? hfield)) hmember
    obtain ⟨ms, body, tail, rfl, hrest, hbody, hforms, hcollects⟩ := ih h
    exact ⟨(key, text) :: ms, _, tail, by simp, hrest,
      .cons hgap (.parts hsource hbefore hbehind) hbody,
      List.forall_mem_cons.mpr ⟨.scalar hwrites.scalarForm, hforms⟩,
      .take hfield (Bool.eq_false_iff.mpr hfree) hwrites hvalue hcollects⟩

/-- Members that are collected are read up to the end of the object. -/
theorem membersText_append (hscalar : shape.ScalarFields) {ms : List (String × List UInt8)}
    (hbody : Series (MemberText Spells) first ms body) (hforms : ∀ m ∈ ms, ValueForm m.2)
    (hcollects : shape.Collects Writes draft ms last) (hsteps : ms.length < steps.length)
    (tail : List UInt8) :
    shape.membersText levels first draft steps (body ++ closeObject :: tail) =
      .ok (.ok last, closeObject :: tail) := by
  induction ms generalizing first draft steps body with
  | nil =>
    obtain ⟨step, more, rfl, -⟩ := exists_cons_of_lt_length hsteps
    cases hcollects
    cases hbody with
    | done hblanks => simp only [membersText, nextKey_end hblanks]
  | cons m ms ih =>
    obtain ⟨step, more, rfl, hmore⟩ :=
      exists_cons_of_lt_length (Nat.lt_of_lt_of_le (Nat.lt_succ_self ms.length) hsteps.le)
    have hmore' : ms.length < more.length := Nat.lt_of_succ_lt_succ hsteps
    obtain ⟨htext, hothers⟩ := List.forall_mem_cons.mp hforms
    cases hbody with
    | @cons _ _ _ gap _ body hgap hpart hrest =>
      cases hpart with
      | @parts key source before behind text hsource hbefore hbehind =>
        have hends := hrest.endsValue (show closeObject ∈ enders by decide) tail
        have hkey : ∀ rest, Json.string (source ++ quote :: rest) = .ok (key, rest) :=
          fun rest => string_eq_ok_iff.mpr ⟨source, rfl, hsource⟩
        have hcolon : ∀ rest, afterColon (before ++ colon :: rest) = .ok rest :=
          fun rest => afterColon_eq_ok_iff.mpr ⟨before, rfl, hbefore⟩
        cases hcollects with
        | skip hfield hcollects =>
          simp only [List.append_assoc, List.cons_append, membersText, nextKey_gap hgap, hkey,
            hfield, memberSkip, hcolon, htext.skipValue hbehind hends, within]
          exact ih hrest hothers hcollects hmore'
        | take hfield hfree hwrites hvalue hcollects =>
          have hread := (hscalar _ (mem_fields_of_field? hfield)).complete levels hwrites hvalue
            hbehind hends
          simp only [List.append_assoc, List.cons_append, membersText, nextKey_gap hgap, hkey,
            hfield, hfree, Bool.false_eq_true, if_false, memberText, hcolon, hread, within]
          exact ih hrest hothers hcollects hmore'

/-! ## Arrays -/

variable {fields : List (Field σ)} {index : Nat}

/-- At the end of a list only fields with a default are left, and they change nothing. -/
theorem inOrder_of_itemsText_end
    (h : shape.itemsText levels first draft index fields (closeList :: tail) =
      .ok (.ok last, rest)) :
    rest = closeList :: tail ∧ @InOrder σ (List UInt8) Writes draft fields [] last := by
  induction fields generalizing index with
  | nil =>
    rw [itemsText] at h
    obtain ⟨heq, rfl⟩ := Prod.mk.inj (Except.ok.inj h)
    obtain rfl := Except.ok.inj heq
    exact ⟨rfl, .nil⟩
  | cons field fields ih =>
    simp only [itemsText, nextItem_closeList] at h
    split at h
    · next habsence =>
      obtain ⟨hrest, hmissing⟩ := ih h
      exact ⟨hrest, .missing habsence hmissing⟩
    · cases h

/-- What is read as the elements of a list that ends are elements in the order of the fields. -/
theorem exists_items (hscalar : ∀ field ∈ fields, field.codec.ByScalar)
    (h : shape.itemsText levels first draft index fields bs = .ok (.ok last, rest))
    (hclose : closeItems rest = (none, tail)) :
    ∃ items body, bs = body ++ closeList :: tail ∧ Series Eq first items body ∧
      (∀ item ∈ items, ValueForm item) ∧ InOrder Writes draft fields items last := by
  induction fields generalizing first draft index bs with
  | nil =>
    rw [itemsText] at h
    obtain ⟨heq, rfl⟩ := Prod.mk.inj (Except.ok.inj h)
    obtain rfl := Except.ok.inj heq
    obtain ⟨before, rfl, hbefore⟩ := closeItems_eq_none_iff.mp hclose
    exact ⟨[], before, rfl, .done hbefore, List.forall_mem_nil _, .nil⟩
  | cons field fields ih =>
    obtain ⟨hfield, hothers⟩ := List.forall_mem_cons.mp hscalar
    rw [itemsText] at h
    split at h
    · cases h
    · next afterBlanks hitem =>
      obtain ⟨before, tail', rfl, rfl, hbefore⟩ := exists_end_of_nextItem hitem
      split at h
      · next habsence =>
        obtain ⟨rfl, hmissing⟩ := inOrder_of_itemsText_end h
        obtain ⟨-, rfl⟩ := Prod.mk.inj hclose
        exact ⟨[], before, rfl, .done hbefore, List.forall_mem_nil _,
          .missing habsence hmissing⟩
      · cases h
    next afterGap hitem =>
    obtain ⟨gap, rfl, hgap⟩ := exists_gap_of_nextItem hitem
    split at h
    · cases h
    · cases h
    next set afterItem hread =>
    obtain ⟨before, text, v, rfl, hbefore, hwrites, hvalue⟩ := hfield.sound (of_within_eq_ok hread)
    obtain ⟨items, body, rfl, hbody, hforms, horder⟩ := ih hothers h
    exact ⟨text :: items, gap ++ before ++ (text ++ body), by simp,
      .cons (hgap.append hbefore) rfl hbody,
      List.forall_mem_cons.mpr ⟨.scalar hwrites.scalarForm, hforms⟩,
      .take hwrites hvalue horder⟩

/-- Elements in the order of the fields are read, and the list ends behind them. -/
theorem itemsText_append (hscalar : ∀ field ∈ fields, field.codec.ByScalar)
    {items : List (List UInt8)} (hbody : Series Eq first items body)
    (hforms : ∀ item ∈ items, ValueForm item) (horder : InOrder Writes draft fields items last)
    (tail : List UInt8) : ∃ rest,
    shape.itemsText levels first draft index fields (body ++ closeList :: tail) =
      .ok (.ok last, rest) ∧ closeItems rest = (none, tail) := by
  induction horder generalizing first body index with
  | nil =>
    cases hbody with
    | done hblanks => exact ⟨_, rfl, closeItems_eq_none_iff.mpr ⟨body, rfl, hblanks⟩⟩
  | missing habsence _ ih =>
    obtain ⟨-, hothers⟩ := List.forall_mem_cons.mp hscalar
    cases hbody with
    | done hblanks =>
      obtain ⟨rest, hread, hclose⟩ :=
        @ih first [] (index + 1) hothers (.done .nil) (List.forall_mem_nil _)
      refine ⟨rest, ?_, hclose⟩
      simp only [itemsText, nextItem_end hblanks, if_pos habsence]
      exact hread
  | @take draft last field fields item items v set hwrites hvalue _ ih =>
    obtain ⟨hfield, hothers⟩ := List.forall_mem_cons.mp hscalar
    obtain ⟨htext, hforms'⟩ := List.forall_mem_cons.mp hforms
    cases hbody with
    | @cons _ _ _ gap _ body hgap hpart hrest =>
      subst hpart
      have hends := hrest.endsValue (show closeList ∈ enders by decide) tail
      obtain ⟨b, bs, rfl, hb, hclose⟩ := htext.exists_cons
      obtain ⟨rest, hread, hend⟩ := @ih false body (index + 1) hothers hrest hforms'
      have hitem : field.codec.fromText levels (b :: (bs ++ (body ++ closeList :: tail))) =
          .ok (.ok set, body ++ closeList :: tail) :=
        hfield.complete levels hwrites hvalue .nil hends
      refine ⟨rest, ?_, hend⟩
      simp only [List.append_assoc, List.cons_append, itemsText, nextItem_gap hgap hb hclose, hitem,
        within]
      exact hread

/-! ## Records -/

/-- What was settled is what the draft becomes, and the container ended. -/
theorem settle_eq_ok_iff {a : α} {draft : Except Mismatch σ} {closing : Closing} :
    shape.settle draft closing = .ok (a, rest) ↔
      ∃ last, draft = .ok last ∧ shape.finish last = .ok a ∧ closing = (none, rest) := by
  obtain ⟨ended, after⟩ := closing
  cases draft with
  | error m => simp [settle, Except.bind]
  | ok last =>
    cases hfinish : shape.finish last with
    | error m => simp [settle, Except.bind, hfinish]
    | ok a' =>
      cases ended with
      | some f => simp [settle, Except.bind, hfinish, closed]
      | none => simp [settle, Except.bind, hfinish, closed]

variable {slots : List (Slot σ)} {a : α}

/-- The record at the front of a text is read off bytes that are a text of it. -/
theorem exists_recordText (hslots : shape.Slotted slots) (hscalar : shape.ScalarFields)
    (h : shape.text levels bs = .ok (a, rest)) :
    ∃ before text, bs = before ++ (text ++ rest) ∧ AllBlank before ∧
      RecordText shape slots text a := by
  unfold Shape.text at h
  split at h
  · cases h
  next b after hskip =>
  obtain ⟨before, rfl, hbefore, -⟩ := exists_blanks hskip
  split at h
  · next hb =>
    subst hb
    split at h
    · cases h
    split at h
    · cases h
    next hitems =>
    obtain ⟨last, rfl, hfinish, hclose⟩ := settle_eq_ok_iff.mp h
    obtain ⟨items, body, rfl, hbody, hforms, horder⟩ := exists_items hscalar hitems hclose
    obtain ⟨hfits, hheld⟩ := (inOrder_blank_iff hslots).mp horder
    exact ⟨before, openList :: (body ++ [closeList]), by simp, hbefore,
      .list (.elements hbody hforms) hfits ⟨last, hheld, hfinish⟩⟩
  split at h
  · next hb =>
    subst hb
    split at h
    · cases h
    split at h
    · cases h
    next hmembers =>
    obtain ⟨last, rfl, hfinish, hclose⟩ := settle_eq_ok_iff.mp h
    obtain ⟨ms, body, tail, rfl, rfl, hbody, hforms, hcollects⟩ := exists_members hscalar hmembers
    obtain ⟨-, rfl⟩ := Prod.mk.inj (show (none, tail) = (none, rest) from hclose)
    exact ⟨before, openObject :: (body ++ [closeObject]), by simp, hbefore,
      .object (.members hbody hforms) ⟨last, (collects_blank_iff hslots).mp hcollects, hfinish⟩⟩
  · split at h <;> cases h

/-- There are no more members than bytes of them. -/
theorem length_le_of_series {κ : Type} {Part : κ → List UInt8 → Prop} {as : List κ}
    (hpart : ∀ a text, Part a text → text ≠ []) (h : Series Part first as body) :
    as.length ≤ body.length := by
  induction h with
  | done _ => exact Nat.zero_le _
  | @cons _ a as gap text rest _ ha _ ih =>
    have htext := List.length_pos_iff.mpr (hpart a text ha)
    simp only [List.length_cons, List.length_append]
    omega

/-- A text of a record is read as the record, with the blanks before it. -/
theorem RecordText.text {text before : List UInt8} (hslots : shape.Slotted slots)
    (hscalar : shape.ScalarFields) (h : RecordText shape slots text a) (hbefore : AllBlank before)
    (levels : Nat) (rest : List UInt8) :
    shape.text (levels + 1) (before ++ (text ++ rest)) = .ok (a, rest) := by
  cases h with
  | @object ms htext hmade =>
    obtain @⟨_, body, hbody, hforms⟩ := htext
    obtain ⟨last, hheld, hfinish⟩ := hmade
    have hlength : ms.length ≤ body.length := by
      refine length_le_of_series ?_ hbody
      rintro _ _ ⟨-, -, -⟩
      exact List.cons_ne_nil _ _
    have hsteps : ms.length < (budget (body ++ closeObject :: rest)).length := by
      simp only [budget, List.length_cons, List.length_append]
      omega
    have hread : shape.membersText levels true shape.blank _ _ = _ :=
      membersText_append hscalar hbody hforms ((collects_blank_iff hslots).mpr hheld) hsteps rest
    simp only [Shape.text, List.append_assoc, List.cons_append, List.nil_append,
      skipBlanks_append_cons hbefore (show isBlank openObject = false from rfl),
      if_neg (show openObject ≠ openList by decide), if_true, hread]
    exact settle_eq_ok_iff.mpr ⟨last, rfl, hfinish, rfl⟩
  | @list items htext hfits hmade =>
    obtain @⟨_, body, hbody, hforms⟩ := htext
    obtain ⟨last, hheld, hfinish⟩ := hmade
    have horder := (inOrder_blank_iff hslots).mpr ⟨hfits, hheld⟩
    obtain ⟨after, hread, hclose⟩ : ∃ after,
        shape.itemsText levels true shape.blank 0 shape.fields (body ++ closeList :: rest) =
          .ok (.ok last, after) ∧ closeItems after = (none, rest) :=
      itemsText_append hscalar hbody hforms horder rest
    simp only [Shape.text, List.append_assoc, List.cons_append, List.nil_append,
      skipBlanks_append_cons hbefore (show isBlank openList = false from rfl), if_true, hread]
    exact settle_eq_ok_iff.mpr ⟨last, rfl, hfinish, hclose⟩

end IdentityGateway.Json.Shape

namespace IdentityGateway.Json

/-- A text consists of a thing if only blanks come after what was read. -/
theorem complete_eq_ok_iff {α : Type} {r : Except Fault (α × List UInt8)} {a : α} :
    complete r = .ok a ↔ ∃ rest, r = .ok (a, rest) ∧ AllBlank rest := by
  cases r with
  | error f => simp [complete]
  | ok r =>
    obtain ⟨a', bs⟩ := r
    simp only [complete, Except.ok.injEq, Prod.mk.injEq, ← skipBlanks_eq_nil_iff]
    constructor
    · intro h
      split at h
      · next hskip => exact ⟨bs, ⟨Except.ok.inj h, rfl⟩, hskip⟩
      · cases h
    · rintro ⟨_, ⟨rfl, rfl⟩, hskip⟩
      simp only [hskip]

/-- A text is read as a record exactly if it is a text of the record with blanks around it. -/
theorem Shape.ofBytes_eq_ok_iff {σ α : Type} {shape : Shape σ α} {slots : List (Slot σ)}
    (hslots : shape.Slotted slots) (hscalar : shape.ScalarFields) {bs : List UInt8} {a : α} :
    shape.ofBytes bs = .ok a ↔ ∃ text, Padded bs text ∧ RecordText shape slots text a := by
  rw [Shape.ofBytes, complete_eq_ok_iff]
  constructor
  · rintro ⟨after, hread, hafter⟩
    obtain ⟨before, text, rfl, hbefore, htext⟩ := exists_recordText hslots hscalar hread
    exact ⟨text, ⟨before, after, rfl, hbefore, hafter⟩, htext⟩
  · rintro ⟨text, ⟨before, after, rfl, hbefore, hafter⟩, htext⟩
    exact ⟨after, htext.text hslots hscalar hbefore (nestingLimit - 1) after, hafter⟩

/-- An object is read as a record exactly if the record is made of its members. -/
theorem Shape.ofBytes_object_iff {σ α : Type} {shape : Shape σ α} {slots : List (Slot σ)}
    (hslots : shape.Slotted slots) (hscalar : shape.ScalarFields) {bs text : List UInt8}
    {ms : List (String × List UInt8)} (hbs : Padded bs text) (htext : ObjectText text ms) {a : α} :
    shape.ofBytes bs = .ok a ↔ shape.Made slots Writes ms a := by
  rw [Shape.ofBytes_eq_ok_iff hslots hscalar]
  constructor
  · rintro ⟨text', hbs', ⟨htext', hmade⟩ | ⟨htext', -, -⟩⟩
    · obtain rfl := hbs.unique hbs' htext.valueForm htext'.valueForm
      exact htext.unique htext' ▸ hmade
    · obtain rfl := hbs.unique hbs' htext.valueForm htext'.valueForm
      cases htext
      cases htext'
  · intro hmade
    exact ⟨text, hbs, .object htext hmade⟩

end IdentityGateway.Json
