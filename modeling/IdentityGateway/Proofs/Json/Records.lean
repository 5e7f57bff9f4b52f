import IdentityGateway.Json.Record
import IdentityGateway.Proofs.Json.Values

/-!
# Records read back

A written object is read by a shape one member after another. If every member is read into a field
that the draft does not have yet, the record is the one that the last draft becomes.
-/

namespace IdentityGateway.Json

open Byte

namespace Codec

variable {α β : Type} {c : Codec α} {levels : Nat} {v : Value} {a : α}

/-- The text of a value is read as a thing. -/
def ReadsText (levels : Nat) (c : Codec α) (v : Value) (a : α) : Prop :=
  ∀ rest, AfterValue rest → c.fromText levels (v.bytes ++ rest) = .ok (.ok a, rest)

/-- A codec takes a value for a thing, from whatever text the value came. -/
def ReadsValue (c : Codec α) (v : Value) (a : α) : Prop :=
  c.fromValue v = .ok a

/-- A thing is read from a text before a function is applied to it. -/
theorem ReadsText.map (h : c.ReadsText levels v a) (f : α → β) :
    (c.map f).ReadsText levels v (f a) := by
  intro rest hrest
  simp only [Codec.map, h rest hrest]
  rfl

/-- A thing is read from a value before a function is applied to it. -/
theorem ReadsValue.map (h : c.ReadsValue v a) (f : α → β) : (c.map f).ReadsValue v (f a) := by
  have hvalue : c.fromValue v = .ok a := h
  simp only [ReadsValue, Codec.map, hvalue]
  rfl

/-- A scalar is read from a text as from a value. -/
theorem readsText_ofToken {accept : Token → Except Mismatch α} (hv : v.Scalar)
    (hvalue : (ofToken accept).ReadsValue v a) : (ofToken accept).ReadsText levels v a := by
  intro rest hrest
  have haccept : accept v.token = .ok a := hvalue
  simp only [ofToken, token_bytes hv hrest, haccept]

/-- What is judged by its value is read from a text as the value in the text is judged. -/
theorem readsText_ofValue {accept : Value → Except Mismatch α} (hv : v.Faithful levels)
    (hvalue : (ofValue accept).ReadsValue v.held a) : (ofValue accept).ReadsText levels v a := by
  intro rest hrest
  have haccept : accept v.held = .ok a := hvalue
  simp only [ofValue, hv.readsBack rest hrest, haccept]

/-- A string value is read back as its text. -/
theorem readsValue_string (s : String) : string.ReadsValue (.string s) s := rfl

/-- So is a string that was written. -/
theorem readsText_string (s : String) : string.ReadsText levels (.string s) s :=
  readsText_ofToken (.string s) (readsValue_string s)

/-- A truth value is read back as what it is. -/
theorem readsValue_bool (b : Bool) : bool.ReadsValue (.bool b) b := rfl

/-- A written truth value is read as one. -/
theorem readsText_bool (b : Bool) : bool.ReadsText levels (.bool b) b :=
  readsText_ofToken (.bool b) (readsValue_bool b)

/-- A thing that is not `null` is read as an optional one. -/
theorem ReadsValue.option (h : c.ReadsValue v a) (hv : v.token ≠ .null) :
    (option c).ReadsValue v (some a) := by
  have hsome : (Codec.option c).fromValue v = (c.map some).fromValue v := by
    cases v with
    | null => exact absurd rfl hv
    | _ => rfl
  rw [ReadsValue, hsome]
  exact h.map some

/-- An unsigned number of 64 bits is read as one. -/
theorem readsValue_word {n : Nat} (hn : n < Nat.pow 2 64) :
    word.ReadsValue (Value.integer n) n := by
  have hword : (0 : Int) ≤ n ∧ (n : Int) < Nat.pow 2 64 := by omega
  simp only [ReadsValue, word, ofToken, Value.integer, Value.token, if_pos hword,
    Int.toNat_natCast]

/-- A string or `null` is read as an optional text. -/
theorem readsValue_text? (s : Option String) :
    (option string).ReadsValue (Value.ofText? s).held s := by
  cases s <;> rfl

/-- A written string or `null` is read as an optional text. -/
theorem readsText_text? (s : Option String) :
    (option string).ReadsText levels (Value.ofText? s) s := by
  intro rest hrest
  cases s with
  | none => rfl
  | some s =>
    have hsome : (string.map some).ReadsText levels (.string s) (some s) :=
      (readsText_string s).map some
    have hread := hsome rest hrest
    change (option string).fromText levels ((Value.string s).bytes ++ rest) = _
    rw [Value.bytes_string, List.cons_append] at hread ⊢
    simp only [option, skipBlanks_cons (show isBlank quote = false from rfl),
      if_neg (show quote ≠ smallN by decide), hread]

end Codec

namespace Shape

section

variable {σ α β : Type}

/-- A record that is made into something else. -/
def map (f : α → β) (shape : Shape σ α) : Shape σ β where
  title := shape.title
  fields := shape.fields
  blank := shape.blank
  finish draft := (shape.finish draft).map f

/-- What a record is made into is settled with it. -/
theorem settle_map (f : α → β) (shape : Shape σ α) (draft : Except Mismatch σ)
    (closing : Closing) :
    (shape.map f).settle draft closing =
      (shape.settle draft closing).map fun (a, rest) => (f a, rest) := by
  cases draft with
  | error m => rfl
  | ok draft =>
    obtain ⟨ended, rest⟩ := closing
    simp only [settle, Except.bind, map]
    cases shape.finish draft with
    | error m => rfl
    | ok a => cases ended <;> rfl

/-- The draft after the elements of an array is no matter of what the record is made into. -/
theorem itemsText_map (f : α → β) (shape : Shape σ α) (levels : Nat) (first : Bool) (draft : σ)
    (index : Nat) (fields : List (Field σ)) (bs : List UInt8) :
    (shape.map f).itemsText levels first draft index fields bs =
      shape.itemsText levels first draft index fields bs := by
  induction fields generalizing first draft index bs with
  | nil => rfl
  | cons field fields ih =>
    simp only [itemsText, ih]
    rfl

/-- The draft after the members of an object is no matter of what the record is made into. -/
theorem membersText_map (f : α → β) (shape : Shape σ α) (levels : Nat) (first : Bool) (draft : σ)
    (steps : Budget) (bs : List UInt8) :
    (shape.map f).membersText levels first draft steps bs =
      shape.membersText levels first draft steps bs := by
  induction steps generalizing first draft bs with
  | nil => rfl
  | cons step steps ih =>
    simp only [membersText, ih]
    rfl

/-- What a record is made into is read as the record. -/
theorem text_map (f : α → β) (shape : Shape σ α) (levels : Nat) (bs : List UInt8) :
    (shape.map f).text levels bs =
      (shape.text levels bs).map fun (a, rest) => (f a, rest) := by
  unfold text
  cases skipBlanks bs with
  | nil => rfl
  | cons b rest =>
    by_cases hlist : b = openList
    · simp only [if_pos hlist]
      cases levels with
      | zero => rfl
      | succ levels =>
        have hitems : (shape.map f).itemsText levels true (shape.map f).blank 0
            (shape.map f).fields rest =
            shape.itemsText levels true shape.blank 0 shape.fields rest :=
          itemsText_map f shape levels true shape.blank 0 shape.fields rest
        simp only [hitems]
        cases shape.itemsText levels true shape.blank 0 shape.fields rest with
        | error fault => rfl
        | ok r => exact settle_map f shape r.1 _
    · by_cases hobject : b = openObject
      · simp only [if_neg hlist, if_pos hobject]
        cases levels with
        | zero => rfl
        | succ levels =>
          have hmembers : (shape.map f).membersText levels true (shape.map f).blank
              (budget rest) rest =
              shape.membersText levels true shape.blank (budget rest) rest :=
            membersText_map f shape levels true shape.blank (budget rest) rest
          simp only [hmembers]
          cases shape.membersText levels true shape.blank (budget rest) rest with
          | error fault => rfl
          | ok r => exact settle_map f shape r.1 _
      · simp only [if_neg hlist, if_neg hobject]
        cases scalar b rest <;> rfl

/-- A text is read as what a record is made into exactly as it is read as the record. -/
theorem ofBytes_map (f : α → β) (shape : Shape σ α) (bs : List UInt8) :
    (shape.map f).ofBytes bs = (shape.ofBytes bs).map f := by
  rw [ofBytes, ofBytes, text_map]
  cases shape.text nestingLimit bs with
  | error fault => rfl
  | ok r =>
    simp only [Except.map, complete]
    cases skipBlanks r.2 <;> rfl

end

variable {σ α : Type} {shape : Shape σ α} {levels : Nat} {draft last : σ}
  {ms : List (String × Value)}

/-- Members are taken into a draft one after another, each into a field that is still free and by
one way of reading. -/
inductive Takes (shape : Shape σ α) (Reads : Codec (σ → σ) → Value → (σ → σ) → Prop) :
    σ → List (String × Value) → σ → Prop
  | nil {draft : σ} : Takes shape Reads draft [] draft
  | cons {draft last : σ} {key : String} {v : Value} {rest : List (String × Value)}
      {field : Field σ} {set : σ → σ} (hfield : shape.field? key = some field)
      (hfree : field.isGiven draft = false) (hread : Reads field.codec v set)
      (hrest : Takes shape Reads (set draft) rest last) :
      Takes shape Reads draft ((key, v) :: rest) last

/-- Written members are read as they are taken, up to the end of the object. -/
theorem Takes.membersText (h : shape.Takes (Codec.ReadsText levels) draft ms last) (first : Bool)
    {steps : Budget} (hsteps : ms.length < steps.length) (rest : List UInt8) :
    shape.membersText levels first draft steps (Value.memberBytes first ms ++ closeObject :: rest) =
      .ok (.ok last, closeObject :: rest) := by
  induction h generalizing first steps with
  | nil =>
    cases steps with
    | nil => cases hsteps
    | cons step steps => rfl
  | @cons draft last key v ms field set hfield hfree hread _ ih =>
    cases steps with
    | nil => cases hsteps
    | cons step steps =>
      rw [Value.memberBytes_cons, List.append_assoc, List.cons_append]
      simp only [Shape.membersText, nextKey_separatorBytes, List.append_assoc, List.cons_append,
        string_quotedBytes, hfield, hfree, Bool.false_eq_true, if_false, memberText,
        afterColon_colon, hread _ (afterValue_memberBytes ms rest), within]
      exact ih false (Nat.lt_of_succ_lt_succ hsteps)

/-- A written object is read as the record that its draft becomes. -/
theorem Takes.text {a : α} (h : shape.Takes (Codec.ReadsText levels) shape.blank ms last)
    (hfinish : shape.finish last = .ok a) (rest : List UInt8) :
    shape.text (levels + 1) ((Value.object ms).bytes ++ rest) = .ok (a, rest) := by
  have hsteps : ms.length < (budget (Value.memberBytes true ms ++ closeObject :: rest)).length := by
    have hle := Value.length_le_memberBytes ms true
    simp only [budget, List.length_cons, List.length_append]
    omega
  rw [Value.bytes_object, List.cons_append, List.append_assoc, List.singleton_append,
    Shape.text, skipBlanks_cons (by decide)]
  simp only [if_neg (show openObject ≠ openList by decide), if_true, h.membersText true hsteps rest,
    settle, Except.bind, hfinish]
  rfl

/-- A text that was written for an object is read as the record that its draft becomes. -/
theorem Takes.ofBytes {a : α}
    (h : shape.Takes (Codec.ReadsText (nestingLimit - 1)) shape.blank ms last)
    (hfinish : shape.finish last = .ok a) :
    shape.ofBytes (Value.object ms).bytes = .ok a := by
  have hread := h.text hfinish []
  rw [List.append_nil] at hread
  rw [Shape.ofBytes, show nestingLimit = nestingLimit - 1 + 1 from rfl, hread]
  rfl

/-- The members of a value are read as they are taken. -/
theorem Takes.membersValue (h : shape.Takes Codec.ReadsValue draft ms last) :
    shape.membersValue draft ms = .ok last := by
  induction h with
  | nil => rfl
  | @cons draft last key v ms field set hfield hfree hread _ ih =>
    have hvalue : field.codec.fromValue v = .ok set := hread
    simp only [Shape.membersValue, hfield, hfree, hvalue, Bool.false_eq_true, if_false, ih]

/-- An object is read as the record that its draft becomes. -/
theorem Takes.ofValue {a : α} (h : shape.Takes Codec.ReadsValue shape.blank ms last)
    (hfinish : shape.finish last = .ok a) : shape.ofValue (.object ms) = .ok a := by
  change (shape.membersValue shape.blank ms).bind shape.finish = _
  rw [h.membersValue]
  exact hfinish

/-- An object is read as a part of another record. -/
theorem Takes.readsValue {a : α} (h : shape.Takes Codec.ReadsValue shape.blank ms last)
    (hfinish : shape.finish last = .ok a) : shape.codec.ReadsValue (.object ms) a :=
  h.ofValue hfinish

end Shape

end IdentityGateway.Json
