import Mathlib.Data.List.Pairwise
import IdentityGateway.Proofs.Json.Scalars

/-!
# Records by their fields

A record is drafted one member after another. Where the fields of the draft are kept apart from each
other, what becomes of the members can be said of each field by itself: it holds nothing if no
member gives it, and otherwise what the only member that gives it is read as. In this form the order
of the members, and members of other names, do not matter.
-/

namespace IdentityGateway.Json

/-- The things given under some names. -/
def givenBy {β : Type} (names : List String) (ms : List (String × β)) : List β :=
  (ms.filter fun m => names.contains m.1).map (·.2)

/-- At most one thing is there, and it is read as what is held. -/
inductive Held {α β : Type} (Reads : β → α → Prop) : List β → Option α → Prop
  | none : Held Reads [] none
  | some {b : β} {a : α} (h : Reads b a) : Held Reads [b] (some a)

/-- What is held is what the only thing there is read as. -/
theorem held_some_iff {α β : Type} {Reads : β → α → Prop} {bs : List β} {a : α} :
    Held Reads bs (some a) ↔ ∃ b, bs = [b] ∧ Reads b a := by
  constructor
  · intro h
    cases h with
    | some h => exact ⟨_, rfl, h⟩
  · rintro ⟨b, rfl, h⟩
    exact .some h

/-- Members in another order give the same things in another order. -/
theorem givenBy_perm {β : Type} (names : List String) {ms ms' : List (String × β)}
    (h : ms.Perm ms') : (givenBy names ms).Perm (givenBy names ms') :=
  (h.filter _).map _

/-- The order of the only thing there is does not matter. -/
theorem Held.perm {α β : Type} {Reads : β → α → Prop} {bs bs' : List β} {held : Option α}
    (h : Held Reads bs held) (hperm : bs.Perm bs') : Held Reads bs' held := by
  cases h with
  | none => exact hperm.nil_eq ▸ .none
  | some h => exact List.perm_singleton.mp hperm.symm ▸ .some h

/-- A thing that stands for a value is read as another thing. -/
def Codec.Makes {α β : Type} (Stands : β → Value → Prop) (c : Codec α) (b : β) (a : α) : Prop :=
  ∃ v, Stands b v ∧ c.fromValue v = .ok a

/-- A value stands for itself. -/
theorem Codec.makes_eq_iff {α : Type} {c : Codec α} {v : Value} {a : α} :
    c.Makes Eq v a ↔ c.fromValue v = .ok a :=
  exists_eq_left'

/-- A field of a record that is drafted in `σ`, and the place in the draft where it is kept. -/
structure Slot (σ : Type) where
  {α : Type}
  name : String
  aliases : List String
  absence : Absence
  codec : Codec α
  get : σ → Option α
  set : α → σ → σ

namespace Slot

variable {σ : Type}

/-- What the reader of records is given of a slot. -/
def field (s : Slot σ) : Field σ :=
  .of s.name s.aliases s.absence s.codec s.get s.set

/-- The names under which a slot is given. -/
def names (s : Slot σ) : List String :=
  s.name :: s.aliases

/-- What becomes of a slot after some members: it was free and holds what they give it, or none of
them gives it. -/
def Advances {β : Type} (Stands : β → Value → Prop) (s : Slot σ) (ms : List (String × β))
    (draft last : σ) : Prop :=
  s.get draft = none ∧ Held (s.codec.Makes Stands) (givenBy s.names ms) (s.get last) ∨
    givenBy s.names ms = [] ∧ s.get last = s.get draft

/-- Two slots have no name in common, and neither is changed with the other. -/
structure Apart (s t : Slot σ) : Prop where
  names : ∀ key ∈ s.names, key ∉ t.names
  left (a : t.α) (d : σ) : s.get (t.set a d) = s.get d
  right (a : s.α) (d : σ) : t.get (s.set a d) = t.get d

/-- Slots are apart in either order. -/
instance : Std.Symm (Apart (σ := σ)) where
  symm _ _ h := ⟨fun key ht hs => h.names key hs ht, h.right, h.left⟩

/-- A key names the field of a slot if it is one of the names. -/
theorem answersTo_field {s : Slot σ} {key : String} :
    s.field.answersTo key = true ↔ key ∈ s.names := by
  rw [field, Field.answersTo, Bool.or_eq_true, names, List.mem_cons, List.contains_iff_mem]
  exact or_congr_left (beq_iff_eq.trans eq_comm)

end Slot

namespace Shape

variable {σ α β : Type} {shape : Shape σ α} {Stands : β → Value → Prop} {draft last : σ}
  {ms : List (String × β)} {bs : List β}

/-! ## Drafts -/

/-- Members are taken into a draft one after another, each into a field that is still free. Members
of other names are left out. -/
inductive Collects (shape : Shape σ α) (Stands : β → Value → Prop) :
    σ → List (String × β) → σ → Prop
  | nil {draft : σ} : Collects shape Stands draft [] draft
  | skip {draft last : σ} {key : String} {b : β} {ms : List (String × β)}
      (hkey : shape.field? key = none) (hrest : Collects shape Stands draft ms last) :
      Collects shape Stands draft ((key, b) :: ms) last
  | take {draft last : σ} {key : String} {b : β} {ms : List (String × β)} {field : Field σ}
      {v : Value} {set : σ → σ} (hkey : shape.field? key = some field)
      (hfree : field.isGiven draft = false) (hstands : Stands b v)
      (hread : field.codec.fromValue v = .ok set)
      (hrest : Collects shape Stands (set draft) ms last) :
      Collects shape Stands draft ((key, b) :: ms) last

/-- Elements are taken into a draft one after another, each into the next field. Where the elements
end, the fields that are left have a default. -/
inductive InOrder (Stands : β → Value → Prop) : σ → List (Field σ) → List β → σ → Prop
  | nil {draft : σ} : InOrder Stands draft [] [] draft
  | missing {draft last : σ} {field : Field σ} {fields : List (Field σ)}
      (habsence : field.absence = .defaulted) (hrest : InOrder Stands draft fields [] last) :
      InOrder Stands draft (field :: fields) [] last
  | take {draft last : σ} {field : Field σ} {fields : List (Field σ)} {b : β} {bs : List β}
      {v : Value} {set : σ → σ} (hstands : Stands b v) (hread : field.codec.fromValue v = .ok set)
      (hrest : InOrder Stands (set draft) fields bs last) :
      InOrder Stands draft (field :: fields) (b :: bs) last

/-! ## Shapes with slots -/

/-- The fields of a shape are kept in slots that are apart from each other, free at first, and all
of the draft. -/
structure Slotted (shape : Shape σ α) (slots : List (Slot σ)) : Prop where
  fields : shape.fields = slots.map Slot.field
  blank : ∀ s ∈ slots, s.get shape.blank = none
  get_set : ∀ s ∈ slots, ∀ a d, s.get (s.set a d) = some a
  apart : slots.Pairwise Slot.Apart
  ext : ∀ d d', (∀ s ∈ slots, s.get d = s.get d') → d = d'

namespace Slotted

variable {slots : List (Slot σ)} {s t : Slot σ} {key : String}

/-- Any two slots are the same or apart. -/
theorem eq_or_apart (h : shape.Slotted slots) (hs : s ∈ slots) (ht : t ∈ slots) :
    s = t ∨ s.Apart t := by
  by_cases heq : s = t
  · exact .inl heq
  · exact .inr (h.apart.forall hs ht heq)

/-- A key names no field exactly if no slot has it. -/
theorem field?_eq_none_iff (h : shape.Slotted slots) :
    shape.field? key = none ↔ ∀ s ∈ slots, key ∉ s.names := by
  simp only [field?, h.fields, List.find?_eq_none, List.forall_mem_map, Slot.answersTo_field]

/-- A key names the field of the one slot that has it. -/
theorem field?_eq_some_iff (h : shape.Slotted slots) {field : Field σ} :
    shape.field? key = some field ↔ ∃ s ∈ slots, s.field = field ∧ key ∈ s.names := by
  have hfound : ∀ {field : Field σ}, shape.field? key = some field →
      ∃ s ∈ slots, s.field = field ∧ key ∈ s.names := by
    intro field hkey
    have hmem : field ∈ slots.map Slot.field := h.fields ▸ List.mem_of_find?_eq_some hkey
    obtain ⟨s, hs, rfl⟩ := List.mem_map.mp hmem
    have hanswers : s.field.answersTo key = true :=
      List.find?_some (p := fun field : Field σ => field.answersTo key) hkey
    exact ⟨s, hs, rfl, Slot.answersTo_field.mp hanswers⟩
  refine ⟨hfound, ?_⟩
  rintro ⟨s, hs, rfl, hnames⟩
  cases hkey : shape.field? key with
  | none => exact absurd hnames (h.field?_eq_none_iff.mp hkey s hs)
  | some field =>
    obtain ⟨t, ht, rfl, hnames'⟩ := hfound hkey
    rcases h.eq_or_apart hs ht with rfl | hapart
    · rfl
    · exact absurd hnames' (hapart.names key hnames)

end Slotted

/-! ## Members of a slot -/

section

variable {s : Slot σ} {names : List String} {key : String} {b : β}

/-- A member of another name gives nothing. -/
theorem givenBy_cons_of_notMem (hkey : key ∉ names) :
    givenBy names ((key, b) :: ms) = givenBy names ms := by
  rw [givenBy, List.filter_cons_of_neg (by simpa using hkey), givenBy]

/-- A member gives what it has under its name. -/
theorem givenBy_cons_of_mem (hkey : key ∈ names) :
    givenBy names ((key, b) :: ms) = b :: givenBy names ms := by
  rw [givenBy, List.filter_cons_of_pos (by simpa using hkey), List.map_cons, givenBy]

/-- What a slot reads makes up what is set in the draft. -/
theorem exists_of_field_fromValue {v : Value} {set : σ → σ}
    (h : s.field.codec.fromValue v = .ok set) : ∃ a, s.codec.fromValue v = .ok a ∧ s.set a = set :=
  exists_of_map_eq_ok h

/-- The slots advance with the members that are taken into a draft. -/
theorem Collects.advances {slots : List (Slot σ)} (hslots : shape.Slotted slots)
    (h : shape.Collects Stands draft ms last) (hs : s ∈ slots) :
    s.Advances Stands ms draft last := by
  induction h with
  | nil => exact .inr ⟨rfl, rfl⟩
  | skip hkey _ ih =>
    rw [Slot.Advances, givenBy_cons_of_notMem (hslots.field?_eq_none_iff.mp hkey s hs)]
    exact ih
  | @take draft last key b ms field v set hkey hfree hstands hread _ ih =>
    obtain ⟨t, ht, rfl, hnames⟩ := hslots.field?_eq_some_iff.mp hkey
    obtain ⟨a, ha, rfl⟩ := exists_of_field_fromValue hread
    rcases hslots.eq_or_apart hs ht with rfl | hapart
    · have hset := hslots.get_set s hs a draft
      obtain ⟨hgiven, hlast⟩ : givenBy s.names ms = [] ∧ s.get last = some a := by
        rcases ih with ⟨hnone, -⟩ | ⟨hgiven, hlast⟩
        · cases hset.symm.trans hnone
        · exact ⟨hgiven, hlast.trans hset⟩
      refine .inl ⟨Option.not_isSome_iff_eq_none.mp (Bool.eq_false_iff.mp hfree), ?_⟩
      rw [givenBy_cons_of_mem hnames, hgiven, hlast]
      exact .some ⟨v, hstands, ha⟩
    · rw [Slot.Advances, hapart.left] at ih
      rw [Slot.Advances, givenBy_cons_of_notMem fun hmem => hapart.names key hmem hnames]
      exact ih

/-- Members with which all the slots advance are taken into a draft. -/
theorem collects_of_advances {slots : List (Slot σ)} (hslots : shape.Slotted slots)
    (h : ∀ s ∈ slots, s.Advances Stands ms draft last) : shape.Collects Stands draft ms last := by
  induction ms generalizing draft with
  | nil =>
    have heq : draft = last := by
      refine hslots.ext draft last fun s hs => ?_
      rcases h s hs with ⟨hnone, hheld⟩ | ⟨-, heq⟩
      · change Held _ [] _ at hheld
        generalize s.get last = a at hheld
        cases hheld
        exact hnone
      · exact heq.symm
    exact heq ▸ .nil
  | cons m ms ih =>
    obtain ⟨key, b⟩ := m
    cases hkey : shape.field? key with
    | none =>
      refine .skip hkey (ih fun s hs => ?_)
      have hadvances := h s hs
      rwa [Slot.Advances, givenBy_cons_of_notMem (hslots.field?_eq_none_iff.mp hkey s hs)]
        at hadvances
    | some field =>
      obtain ⟨t, ht, rfl, hnames⟩ := hslots.field?_eq_some_iff.mp hkey
      have hadvances := h t ht
      rw [Slot.Advances, givenBy_cons_of_mem hnames] at hadvances
      obtain ⟨hnone, hheld⟩ | ⟨hgiven, -⟩ := hadvances
      · generalize hgiven : givenBy t.names ms = bs at hheld
        generalize hlast : t.get last = held at hheld
        cases hheld with
        | @some b a hreads =>
          obtain ⟨v, hstands, ha⟩ := hreads
          have hset : t.field.codec.fromValue v = .ok (t.set a) := congrArg (Except.map t.set) ha
          have hfree : t.field.isGiven draft = false := by
            change (t.get draft).isSome = false
            rw [hnone]
            rfl
          refine .take hkey hfree hstands hset (ih fun s hs => ?_)
          rcases hslots.eq_or_apart hs ht with rfl | hapart
          · exact .inr ⟨hgiven, hlast.trans (hslots.get_set s hs a draft).symm⟩
          · have hadvances := h s hs
            rw [Slot.Advances, givenBy_cons_of_notMem fun hmem => hapart.names key hmem hnames]
              at hadvances
            rwa [Slot.Advances, hapart.left]
      · cases hgiven

/-- Members are taken into the blank draft exactly if each slot holds what they give it. -/
theorem collects_blank_iff {slots : List (Slot σ)} (hslots : shape.Slotted slots) :
    shape.Collects Stands shape.blank ms last ↔
      ∀ s ∈ slots, Held (s.codec.Makes Stands) (givenBy s.names ms) (s.get last) := by
  constructor
  · intro h s hs
    rcases h.advances hslots hs with ⟨-, hheld⟩ | ⟨hgiven, hlast⟩
    · exact hheld
    · rw [hgiven, hlast, hslots.blank s hs]
      exact .none
  · intro h
    exact collects_of_advances hslots fun s hs => .inl ⟨hslots.blank s hs, h s hs⟩

/-! ## Elements in order -/

/-- A list of some length gives no more than the fields, and leaves out only those that have a
default. -/
structure Fits (slots : List (Slot σ)) (n : Nat) : Prop where
  le : n ≤ slots.length
  defaulted : ∀ s ∈ slots.drop n, s.absence = .defaulted

/-- The elements of a list as members of the names of the fields, in the order of these. -/
def labelled (slots : List (Slot σ)) (bs : List β) : List (String × β) :=
  (slots.map Slot.name).zip bs

/-- The name of a slot names its field. -/
theorem Slotted.field?_name {slots : List (Slot σ)} (hslots : shape.Slotted slots)
    (hs : s ∈ slots) : shape.field? s.name = some s.field :=
  hslots.field?_eq_some_iff.mpr ⟨s, hs, rfl, List.mem_cons_self⟩

/-- Elements taken in order are taken like members of the names of the fields. -/
theorem InOrder.collects {slots more : List (Slot σ)} (hslots : shape.Slotted slots)
    (hmore : more ⊆ slots) (hapart : more.Pairwise Slot.Apart)
    (hfree : ∀ s ∈ more, s.get draft = none)
    (h : InOrder Stands draft (more.map Slot.field) bs last) :
    Fits more bs.length ∧ shape.Collects Stands draft (labelled more bs) last := by
  induction more generalizing draft bs with
  | nil =>
    cases h with
    | nil => exact ⟨⟨Nat.le_refl 0, nofun⟩, .nil⟩
  | cons s more ih =>
    obtain ⟨hs, hsub⟩ := List.cons_subset.mp hmore
    obtain ⟨hfirst, hrest⟩ := List.pairwise_cons.mp hapart
    obtain ⟨hnone, hfree⟩ := List.forall_mem_cons.mp hfree
    cases h with
    | missing habsence hmissing =>
      obtain ⟨hfits, hcollects⟩ := ih hsub hrest hfree hmissing
      refine ⟨⟨Nat.zero_le _, List.forall_mem_cons.mpr ⟨habsence, hfits.defaulted⟩⟩, ?_⟩
      rw [labelled, List.zip_nil_right] at hcollects ⊢
      exact hcollects
    | @take _ _ _ _ b bs v set hstands hread htake =>
      obtain ⟨a, ha, rfl⟩ := exists_of_field_fromValue hread
      have hfree' : ∀ t ∈ more, t.get (s.set a draft) = none := by
        intro t ht
        rw [(hfirst t ht).right, hfree t ht]
      obtain ⟨hfits, hcollects⟩ := ih hsub hrest hfree' htake
      refine ⟨⟨Nat.succ_le_succ hfits.le, hfits.defaulted⟩, ?_⟩
      have hopen : s.field.isGiven draft = false := by
        change (s.get draft).isSome = false
        rw [hnone]
        rfl
      exact .take (hslots.field?_name hs) hopen hstands hread hcollects

/-- Elements that are taken like members of the names of the fields are taken in order. -/
theorem Collects.inOrder {slots more : List (Slot σ)} (hslots : shape.Slotted slots)
    (hmore : more ⊆ slots) (hfits : Fits more bs.length)
    (h : shape.Collects Stands draft (labelled more bs) last) :
    InOrder Stands draft (more.map Slot.field) bs last := by
  induction more generalizing draft bs with
  | nil =>
    obtain rfl := List.length_eq_zero_iff.mp (Nat.le_zero.mp hfits.le)
    cases h
    exact .nil
  | cons s more ih =>
    obtain ⟨hs, hsub⟩ := List.cons_subset.mp hmore
    cases bs with
    | nil =>
      obtain ⟨habsence, hdefaulted⟩ := List.forall_mem_cons.mp hfits.defaulted
      refine .missing habsence (ih hsub ⟨Nat.zero_le _, hdefaulted⟩ ?_)
      rwa [labelled, List.zip_nil_right] at h ⊢
    | cons b bs =>
      have hname := hslots.field?_name hs
      have hfits' : Fits more bs.length := ⟨Nat.le_of_succ_le_succ hfits.le, hfits.defaulted⟩
      rw [labelled, List.map_cons, List.zip_cons_cons, ← labelled] at h
      cases h with
      | skip hkey _ => cases hname.symm.trans hkey
      | take hkey _ hstands hread hrest =>
        obtain rfl := Option.some.inj (hname.symm.trans hkey)
        exact .take hstands hread (ih hsub hfits' hrest)

/-- Elements are taken into the blank draft exactly if there are as many as fit, and each slot holds
what its element gives it. -/
theorem inOrder_blank_iff {slots : List (Slot σ)} (hslots : shape.Slotted slots) :
    InOrder Stands shape.blank shape.fields bs last ↔ Fits slots bs.length ∧
      ∀ s ∈ slots,
        Held (s.codec.Makes Stands) (givenBy s.names (labelled slots bs)) (s.get last) := by
  rw [hslots.fields]
  constructor
  · intro h
    obtain ⟨hfits, hcollects⟩ := h.collects hslots (List.Subset.refl _) hslots.apart hslots.blank
    exact ⟨hfits, (collects_blank_iff hslots).mp hcollects⟩
  · rintro ⟨hfits, hheld⟩
    exact ((collects_blank_iff hslots).mpr hheld).inOrder hslots (List.Subset.refl _) hfits

end

/-! ## Records -/

/-- A record is made of members, of which each slot takes its own. -/
def Made (shape : Shape σ α) (slots : List (Slot σ)) (Stands : β → Value → Prop)
    (ms : List (String × β)) (a : α) : Prop :=
  ∃ last, (∀ s ∈ slots, Held (s.codec.Makes Stands) (givenBy s.names ms) (s.get last)) ∧
    shape.finish last = .ok a

section

variable {slots : List (Slot σ)} {a : α}

/-- A record is made of its members in any order. -/
theorem Made.perm {ms' : List (String × β)} (h : shape.Made slots Stands ms a)
    (hperm : ms.Perm ms') : shape.Made slots Stands ms' a := by
  obtain ⟨last, hheld, hfinish⟩ := h
  exact ⟨last, fun s hs => (hheld s hs).perm (givenBy_perm s.names hperm), hfinish⟩

/-- The draft after the members of an object is what they are collected to. -/
theorem membersValue_eq_ok_iff {ms : List (String × Value)} :
    shape.membersValue draft ms = .ok last ↔ shape.Collects Eq draft ms last := by
  constructor
  · intro h
    induction ms generalizing draft with
    | nil =>
      rw [membersValue] at h
      exact Except.ok.inj h ▸ .nil
    | cons m ms ih =>
      obtain ⟨key, v⟩ := m
      rw [membersValue] at h
      split at h
      · next hkey => exact .skip hkey (ih h)
      next field hkey =>
      split at h
      · cases h
      next hfree =>
      split at h
      · cases h
      next set hread => exact .take hkey (Bool.eq_false_iff.mpr hfree) rfl hread (ih h)
  · intro h
    induction h with
    | nil => rw [membersValue]
    | skip hkey _ ih => simp only [membersValue, hkey, ih]
    | take hkey hfree hstands hread _ ih =>
      subst hstands
      simp only [membersValue, hkey, hfree, hread, Bool.false_eq_true, if_false, ih]

/-- An object is a record exactly if the record is made of its members. -/
theorem ofValue_object_iff (hslots : shape.Slotted slots) {ms : List (String × Value)} :
    shape.ofValue (.object ms) = .ok a ↔ shape.Made slots Eq ms a := by
  have hbind : shape.ofValue (.object ms) = .ok a ↔
      ∃ last, shape.membersValue shape.blank ms = .ok last ∧ shape.finish last = .ok a := by
    change (shape.membersValue shape.blank ms).bind shape.finish = .ok a ↔ _
    cases shape.membersValue shape.blank ms with
    | error m => simp [Except.bind]
    | ok last => simp [Except.bind]
  simp only [hbind, membersValue_eq_ok_iff, collects_blank_iff hslots, Made]

/-- The draft after the elements of an array, of which none is left over, is what they make in
order. -/
theorem itemsValue_eq_ok_iff {index : Nat} {fields : List (Field σ)} {vs : List Value} :
    shape.itemsValue draft index fields vs = .ok (last, []) ↔
      InOrder Eq draft fields vs last := by
  constructor
  · intro h
    induction fields generalizing draft index vs with
    | nil =>
      rw [itemsValue] at h
      obtain ⟨rfl, rfl⟩ := Prod.mk.inj (Except.ok.inj h)
      exact .nil
    | cons field fields ih =>
      cases vs with
      | nil =>
        rw [itemsValue] at h
        split at h
        · next habsence => exact .missing habsence (ih h)
        · cases h
      | cons v vs =>
        rw [itemsValue] at h
        split at h
        · cases h
        next set hread => exact .take rfl hread (ih h)
  · intro h
    induction h generalizing index with
    | nil => rw [itemsValue]
    | missing habsence _ ih => rw [itemsValue, if_pos habsence, ih]
    | take hstands hread _ ih =>
      subst hstands
      simp only [itemsValue, hread, ih]

/-- An array is a record exactly if there are as many elements as fit, and the record is made of
them. -/
theorem ofValue_array_iff (hslots : shape.Slotted slots) {vs : List Value} :
    shape.ofValue (.array vs) = .ok a ↔
      Fits slots vs.length ∧ shape.Made slots Eq (labelled slots vs) a := by
  have hitems : shape.ofValue (.array vs) = .ok a ↔
      ∃ last, shape.itemsValue shape.blank 0 shape.fields vs = .ok (last, []) ∧
        shape.finish last = .ok a := by
    simp only [ofValue]
    cases shape.itemsValue shape.blank 0 shape.fields vs with
    | error m => simp
    | ok r =>
      obtain ⟨draft, left⟩ := r
      cases left with
      | nil => cases hfinish : shape.finish draft <;> simp [hfinish]
      | cons v left => cases hfinish : shape.finish draft <;> simp [hfinish]
  simp only [hitems, itemsValue_eq_ok_iff, inOrder_blank_iff hslots, Made, and_assoc,
    exists_and_left]

end

end Shape

end IdentityGateway.Json
