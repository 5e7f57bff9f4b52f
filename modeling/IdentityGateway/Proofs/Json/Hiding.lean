import IdentityGateway.Json.Record

/-!
# Records read from values with hidden strings

Strings at some fields of a record may be hidden before it is read. Where a field takes any string,
the record is read as before but for the hidden strings, and where the record is refused, the
refusal is the same.
-/

namespace IdentityGateway.Json

/-- Forgets what a string says, and keeps every other value. -/
def Value.hideString : Value → Value
  | .string _ => .string ""
  | v => v

/-- A thing is read from a value with something hidden as it is otherwise, but for what is blanked
in it. -/
def Codec.Hides {α : Type} (c : Codec α) (hide : Value → Value) (blank : α → α) (v : Value) :
    Prop :=
  c.fromValue (hide v) = (c.fromValue v).map blank

/-- A field is set from a value with something hidden as it is otherwise, but for what is blanked
in the draft. -/
inductive Field.Hides {σ : Type} (field : Field σ) (hide : Value → Value) (blank : σ → σ)
    (v : Value) : Prop
  | refused {m : Mismatch} (before : field.codec.fromValue v = .error m)
      (hidden : field.codec.fromValue (hide v) = .error m)
  | taken {set set' : σ → σ} (before : field.codec.fromValue v = .ok set)
      (hidden : field.codec.fromValue (hide v) = .ok set')
      (same : ∀ draft, set' (blank draft) = blank (set draft))

section

variable {α σ : Type} {c : Codec α} {hide : Value → Value} {v : Value}

/-- Nothing is hidden where values stay as they are. -/
theorem Codec.hides_id (c : Codec α) (v : Value) : c.Hides id id v := by
  change c.fromValue v = (c.fromValue v).map id
  cases c.fromValue v <;> rfl

/-- A text may be hidden. -/
theorem Codec.hides_string (v : Value) :
    Codec.string.Hides Value.hideString (fun _ => "") v := by
  cases v <;> rfl

/-- An optional text may be hidden. -/
theorem Codec.hides_text? (v : Value) :
    (Codec.option .string).Hides Value.hideString (Option.map fun _ => "") v := by
  cases v <;> rfl

/-- A field kept in an option of the draft hides what its codec does. -/
theorem Codec.Hides.field {blank : α → α} {blankDraft : σ → σ} (h : c.Hides hide blank v)
    (name : String) (aliases : List String) (absence : Absence) (get : σ → Option α)
    {set : α → σ → σ}
    (hset : ∀ a draft, set (blank a) (blankDraft draft) = blankDraft (set a draft)) :
    (Field.of name aliases absence c get set).Hides hide blankDraft v := by
  have hvalue : c.fromValue (hide v) = (c.fromValue v).map blank := h
  cases hread : c.fromValue v with
  | error m =>
    refine .refused (m := m) ?_ ?_ <;> simp only [Field.of, Codec.map, hvalue, hread] <;> rfl
  | ok a =>
    have hbefore : (c.map set).fromValue v = .ok (set a) := by
      simp only [Codec.map, hread]
      rfl
    have hhidden : (c.map set).fromValue (hide v) = .ok (set (blank a)) := by
      simp only [Codec.map, hvalue, hread]
      rfl
    exact .taken hbefore hhidden (hset a)

end

namespace Shape

variable {σ α : Type} {shape : Shape σ α} {hide : String → Value → Value} {blank : σ → σ}

/-- The elements of an array with something hidden at the fields from some on. -/
def hiddenItems (hide : String → Value → Value) : List (Field σ) → List Value → List Value
  | [], vs => vs
  | _ :: _, [] => []
  | field :: fields, v :: vs => hide field.name v :: hiddenItems hide fields vs

/-- A value of a record with something hidden at each field. -/
def hidden (shape : Shape σ α) (hide : String → Value → Value) : Value → Value
  | .object ms => .object (ms.map fun m => (m.1, hide m.1 m.2))
  | .array vs => .array (hiddenItems hide shape.fields vs)
  | v => v

/-- What is blanked in drafts and records where something is hidden. -/
structure Blanks (shape : Shape σ α) (blank : σ → σ) (blankRecord : α → α) : Prop where
  start : blank shape.blank = shape.blank
  given : ∀ field ∈ shape.fields, ∀ draft, field.isGiven (blank draft) = field.isGiven draft
  finish : ∀ draft, shape.finish (blank draft) = (shape.finish draft).map blankRecord

/-- The members of an object are read as before but for what is hidden. -/
theorem membersValue_hidden
    (hgiven : ∀ field ∈ shape.fields, ∀ draft, field.isGiven (blank draft) = field.isGiven draft)
    {ms : List (String × Value)}
    (hread : ∀ m ∈ ms, ∀ field, shape.field? m.1 = some field → field.Hides (hide m.1) blank m.2)
    (draft : σ) :
    shape.membersValue (blank draft) (ms.map fun m => (m.1, hide m.1 m.2)) =
      (shape.membersValue draft ms).map blank := by
  induction ms generalizing draft with
  | nil => rfl
  | cons m ms ih =>
    obtain ⟨key, v⟩ := m
    have hrest := ih fun m hm => hread m (List.mem_cons_of_mem _ hm)
    cases hfield : shape.field? key with
    | none =>
      simp only [List.map_cons, membersValue, hfield]
      exact hrest draft
    | some field =>
      have hmem : field ∈ shape.fields := List.mem_of_find?_eq_some hfield
      simp only [List.map_cons, membersValue, hfield, hgiven field hmem]
      split
      · rfl
      · cases hread (key, v) List.mem_cons_self field hfield with
        | refused before hidden =>
          simp only [before, hidden]
          rfl
        | taken before hidden same =>
          simp only [before, hidden, same]
          exact hrest _

/-- The elements of an array are read as before but for what is hidden. -/
theorem itemsValue_hidden {fields : List (Field σ)}
    (hread : ∀ field ∈ fields, ∀ v, field.Hides (hide field.name) blank v) (draft : σ)
    (index : Nat) (vs : List Value) :
    shape.itemsValue (blank draft) index fields (hiddenItems hide fields vs) =
      (shape.itemsValue draft index fields vs).map fun (draft, left) => (blank draft, left) := by
  induction fields generalizing draft index vs with
  | nil => rfl
  | cons field fields ih =>
    have hrest := ih fun field hfield => hread field (List.mem_cons_of_mem _ hfield)
    cases vs with
    | nil =>
      simp only [hiddenItems, itemsValue]
      split
      · have hnone : hiddenItems hide fields [] = [] := by cases fields <;> rfl
        rw [← hrest, hnone]
      · rfl
    | cons v vs =>
      simp only [hiddenItems, itemsValue]
      cases hread field List.mem_cons_self v with
      | refused before hidden =>
        simp only [before, hidden]
        rfl
      | taken before hidden same =>
        simp only [before, hidden, same]
        exact hrest _ _ _

/-- There are as many elements as before. -/
theorem length_hiddenItems (fields : List (Field σ)) (vs : List Value) :
    (hiddenItems hide fields vs).length = vs.length := by
  induction fields generalizing vs with
  | nil => rfl
  | cons field fields ih =>
    cases vs with
    | nil => rfl
    | cons v vs => simp only [hiddenItems, List.length_cons, ih]

/-- A key without other spellings names its field. -/
theorem name_of_field? (hnames : ∀ field ∈ shape.fields, field.aliases = []) {key : String}
    {field : Field σ} (hfield : shape.field? key = some field) :
    field ∈ shape.fields ∧ field.name = key := by
  have hmem : field ∈ shape.fields := List.mem_of_find?_eq_some hfield
  have hanswers := List.find?_some hfield
  exact ⟨hmem, by simpa [Field.answersTo, hnames field hmem] using hanswers⟩

/-- A record is read as before but for what is hidden. -/
theorem Blanks.ofValue_hidden {blankRecord : α → α} (h : shape.Blanks blank blankRecord) {v : Value}
    (hmembers : ∀ ms, v = .object ms → ∀ m ∈ ms, ∀ field, shape.field? m.1 = some field →
      field.Hides (hide m.1) blank m.2)
    (hitems : ∀ vs, v = .array vs → ∀ field ∈ shape.fields, ∀ w,
      field.Hides (hide field.name) blank w) :
    shape.ofValue (shape.hidden hide v) = (shape.ofValue v).map blankRecord := by
  cases v with
  | object ms =>
    have hread := membersValue_hidden h.given (hmembers ms rfl) shape.blank
    rw [h.start] at hread
    simp only [hidden, ofValue, hread]
    cases shape.membersValue shape.blank ms with
    | error m => rfl
    | ok draft => exact h.finish draft
  | array vs =>
    have hread : shape.itemsValue (blank shape.blank) 0 shape.fields _ = _ :=
      itemsValue_hidden (hitems vs rfl) shape.blank 0 vs
    rw [h.start] at hread
    simp only [hidden, ofValue, hread, length_hiddenItems]
    cases shape.itemsValue shape.blank 0 shape.fields vs with
    | error m => rfl
    | ok r =>
      obtain ⟨draft, left⟩ := r
      simp only [Except.map, h.finish]
      cases shape.finish draft with
      | error m => rfl
      | ok a =>
        simp only
        split <;> rfl
  | _ => rfl

/-- If every field hides, then so does the record. -/
theorem Blanks.hides {blankRecord : α → α} (h : shape.Blanks blank blankRecord)
    (hnames : ∀ field ∈ shape.fields, field.aliases = [])
    (hread : ∀ field ∈ shape.fields, ∀ v, field.Hides (hide field.name) blank v) (v : Value) :
    shape.codec.Hides (shape.hidden hide) blankRecord v := by
  refine h.ofValue_hidden ?_ fun _ _ => hread
  intro _ _ m _ field hfield
  obtain ⟨hmem, hname⟩ := name_of_field? hnames hfield
  exact hname ▸ hread field hmem m.2

end Shape

end IdentityGateway.Json
