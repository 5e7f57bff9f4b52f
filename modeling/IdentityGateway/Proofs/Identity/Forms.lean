import IdentityGateway.Proofs.Identity
import IdentityGateway.Proofs.Json.Parsing
import IdentityGateway.Proofs.Json.RecordTexts

/-!
# The texts of users

A text is read as a user exactly if it is one of an object or a list that gives the fields of a
user: each field under one of its names and at most once, those without a default at least once, and
each as the text of a value of its kind. Nothing else matters: neither the order of the members, nor
members of other names, nor the blanks.
-/

namespace IdentityGateway

open Json (Value Mismatch Codec Shape Slot Held Writes ValueForm ObjectText ListText Padded givenBy
  held_some_iff)

/-! ## What values are read as -/

namespace UserId

/-- Only a string, or an integer of 64 bits with a sign, is read as an id. -/
theorem fromValue_codec_iff {v : Value} {id : UserId} :
    codec.fromValue v = .ok id ↔ v = id.toJson ∧ id.HasWord := by
  constructor
  · intro h
    cases v with
    | string s =>
      obtain rfl := Except.ok.inj h
      exact ⟨rfl, trivial⟩
    | number x =>
      cases x with
      | real y => cases h
      | integer n =>
        change (if -(Nat.pow 2 63 : Int) ≤ n ∧ n < Nat.pow 2 63 then .ok (.number n)
          else ofJson.refusal) = Except.ok id at h
        split at h
        · next hn =>
          obtain rfl := Except.ok.inj h
          exact ⟨rfl, hn⟩
        · cases h
    | _ => cases h
  · rintro ⟨rfl, hid⟩
    cases id with
    | number n => exact if_pos hid
    | text s => rfl

/-- An id is made of a scalar. -/
theorem byScalar_codec : codec.ByScalar := by
  refine Codec.byScalar_ofValue ?_
  intro v id haccept
  obtain ⟨rfl, hid⟩ := fromValue_codec_iff.mp haccept
  exact scalar_toJson hid

end UserId

namespace Timestamp

/-- A value is a string that is accepted as a point in time. -/
def IsInstant (v : Value) (t : Timestamp) : Prop :=
  ∃ s, v = .string s ∧ ofText s = .ok t

/-- Only a string that is accepted is read as a point in time. -/
theorem fromValue_codec_iff {v : Value} {t : Timestamp} :
    codec.fromValue v = .ok t ↔ IsInstant v t := by
  constructor
  · intro h
    cases v with
    | string s =>
      simp only [codec, Codec.ofToken, Value.token] at h
      split at h
      · next instant hread =>
        obtain rfl := Except.ok.inj h
        exact ⟨s, rfl, hread⟩
      · cases h
    | _ => cases h
  · rintro ⟨s, rfl, hread⟩
    simp only [codec, Codec.ofToken, Value.token, hread]

/-- A point in time is made of a string. -/
theorem byScalar_codec : codec.ByScalar := by
  refine Codec.byScalar_ofToken ?_
  intro v t haccept
  obtain ⟨s, rfl, -⟩ := fromValue_codec_iff.mp haccept
  exact .string s

end Timestamp

namespace Identity

/-! ## Texts of the fields -/

/-- The texts of the fields of a user. Those with a default may be missing. -/
structure FieldTexts where
  id : List UInt8
  email : List UInt8
  name : Option (List UInt8)
  emailVerified : Option (List UInt8)
  createdAt : List UInt8
  updatedAt : List UInt8
  passwordHash : Option (List UInt8)

namespace FieldTexts

/-- Members give the texts of the fields. Two names of a field count as one. -/
structure GivenBy (f : FieldTexts) (ms : List (String × List UInt8)) : Prop where
  id : givenBy ["id"] ms = [f.id]
  email : givenBy ["email"] ms = [f.email]
  name : givenBy ["name"] ms = f.name.toList
  emailVerified : givenBy ["email_verified", "emailVerified"] ms = f.emailVerified.toList
  createdAt : givenBy ["created_at", "createdAt"] ms = [f.createdAt]
  updatedAt : givenBy ["updated_at", "updatedAt"] ms = [f.updatedAt]
  passwordHash : givenBy ["password_hash"] ms = f.passwordHash.toList

/-- A text that may be missing stands for a thing, which is the default if there is no text. -/
inductive Given {α : Type} (StandsFor : List UInt8 → α → Prop) (default : α) :
    Option (List UInt8) → α → Prop
  | missing : Given StandsFor default none default
  | text {text : List UInt8} {a : α} (h : StandsFor text a) :
      Given StandsFor default (some text) a

/-- A text is that of a string or of `null`. -/
def IsText? (text : List UInt8) (s : Option String) : Prop :=
  Writes text (Value.ofText? s)

/-- A text is that of a truth value. -/
def IsTruth (text : List UInt8) (b : Bool) : Prop :=
  Writes text (.bool b)

/-- A text is that of a string which is accepted as a point in time. -/
def IsInstant (text : List UInt8) (t : Timestamp) : Prop :=
  ∃ v, Writes text v ∧ Timestamp.IsInstant v t

/-- The texts of the fields are those of a user. -/
structure Mean (f : FieldTexts) (u : Identity) : Prop where
  id : Writes f.id u.id.toJson
  word : u.id.HasWord
  email : Writes f.email (.string u.email)
  name : Given IsText? none f.name u.name
  emailVerified : Given IsTruth false f.emailVerified u.emailVerified
  createdAt : IsInstant f.createdAt u.createdAt
  updatedAt : IsInstant f.updatedAt u.updatedAt
  passwordHash : Given IsText? none f.passwordHash u.passwordHash

end FieldTexts

/-- A text gives the texts of the fields: as the members of an object, or as the elements of a list
in the order of the fields, of which only the last may be missing there. -/
inductive Gives (text : List UInt8) (f : FieldTexts) : Prop
  | object {ms : List (String × List UInt8)} (htext : ObjectText text ms) (hgiven : f.GivenBy ms)
  | list {name verified : List UInt8} (hname : f.name = some name)
      (hverified : f.emailVerified = some verified)
      (htext : ListText text ([f.id, f.email, name, verified, f.createdAt, f.updatedAt] ++
        f.passwordHash.toList))

/-! ## Slots -/

/-- The fields of a user and their places in the draft. -/
def slots : List (Slot Draft) := [
  ⟨"id", [], .required, UserId.codec, Draft.id, fun a d => { d with id := some a }⟩,
  ⟨"email", [], .required, .string, Draft.email, fun a d => { d with email := some a }⟩,
  ⟨"name", [], .defaulted, .option .string, Draft.name, fun a d => { d with name := some a }⟩,
  ⟨"email_verified", ["emailVerified"], .defaulted, .bool, Draft.emailVerified,
    fun a d => { d with emailVerified := some a }⟩,
  ⟨"created_at", ["createdAt"], .required, Timestamp.codec, Draft.createdAt,
    fun a d => { d with createdAt := some a }⟩,
  ⟨"updated_at", ["updatedAt"], .required, Timestamp.codec, Draft.updatedAt,
    fun a d => { d with updatedAt := some a }⟩,
  ⟨"password_hash", [], .defaulted, .option .string, Draft.passwordHash,
    fun a d => { d with passwordHash := some a }⟩]

/-- The fields of a user are kept apart. -/
theorem slotted : shape.Slotted slots where
  fields := rfl
  blank := by simp [slots, shape]
  get_set := by simp [slots]
  apart := by
    simp only [slots, List.pairwise_cons, List.forall_mem_cons, List.not_mem_nil, false_implies,
      implies_true, and_true, List.Pairwise.nil]
    and_intros <;> exact ⟨by decide, fun _ _ => rfl, fun _ _ => rfl⟩
  ext := by
    rintro ⟨_, _, _, _, _, _, _⟩ ⟨_, _, _, _, _, _, _⟩
    simp [slots]

/-- The fields of a user are made of scalars. -/
theorem byScalar_slots : ∀ s ∈ slots, s.codec.ByScalar := by
  simp only [slots, List.forall_mem_cons, List.not_mem_nil, false_implies, implies_true, and_true]
  exact ⟨UserId.byScalar_codec, Codec.byScalar_string, Codec.byScalar_string.option,
    Codec.byScalar_bool, Timestamp.byScalar_codec, Timestamp.byScalar_codec,
    Codec.byScalar_string.option⟩

/-- The fields that the readers of a user look for are made of scalars. -/
theorem scalarFields : shape.ScalarFields :=
  slotted.scalarFields byScalar_slots

/-- A draft of a user is finished if the fields without a default are given. -/
theorem finish_eq_ok_iff {d : Draft} {u : Identity} :
    shape.finish d = .ok u ↔ d.id = some u.id ∧ d.email = some u.email ∧
      d.name.getD none = u.name ∧ d.emailVerified.getD false = u.emailVerified ∧
      d.createdAt = some u.createdAt ∧ d.updatedAt = some u.updatedAt ∧
      d.passwordHash.getD none = u.passwordHash := by
  obtain ⟨id, email, name, emailVerified, createdAt, updatedAt, passwordHash⟩ := d
  obtain ⟨id', email', name', emailVerified', createdAt', updatedAt', passwordHash'⟩ := u
  cases id <;> cases email <;> cases createdAt <;> cases updatedAt <;>
    simp [shape, Draft.finish, Json.given, bind, Except.bind, pure, Except.pure]

/-! ## What the fields hold -/

section

variable {bs : List (List UInt8)} {text : List UInt8}

/-- An id is made of its text. -/
theorem makes_id_iff {id : UserId} :
    UserId.codec.Makes Writes text id ↔ Writes text id.toJson ∧ id.HasWord := by
  simp only [Codec.Makes, UserId.fromValue_codec_iff]
  exact ⟨fun ⟨_, hwrites, heq, hid⟩ => ⟨heq ▸ hwrites, hid⟩,
    fun ⟨hwrites, hid⟩ => ⟨_, hwrites, rfl, hid⟩⟩

/-- A text that has to be given is made of that of a string. -/
theorem makes_string_iff {s : String} :
    Codec.string.Makes Writes text s ↔ Writes text (.string s) := by
  simp only [Codec.Makes, Codec.fromValue_string_iff, exists_eq_right]

private theorem makes_bool : Codec.bool.Makes Writes = FieldTexts.IsTruth := by
  funext text b
  simp only [Codec.Makes, Codec.fromValue_bool_iff, exists_eq_right, FieldTexts.IsTruth]

/-- A text that may be missing is made of that of a string or of `null`. -/
theorem makes_text? : (Codec.option .string).Makes Writes = FieldTexts.IsText? := by
  funext text s
  refine propext ⟨?_, fun hwrites => ⟨_, hwrites, by cases s <;> rfl⟩⟩
  rintro ⟨v, hwrites, hvalue⟩
  rcases Codec.fromValue_option_iff.mp hvalue with ⟨rfl, rfl⟩ | ⟨-, s, hs, rfl⟩
  · exact hwrites
  · obtain rfl := Codec.fromValue_string_iff.mp hs
    exact hwrites

/-- A point in time is made of the text of a string that is accepted. -/
theorem makes_instant : Timestamp.codec.Makes Writes = FieldTexts.IsInstant := by
  funext text t
  simp only [Codec.Makes, Timestamp.fromValue_codec_iff, FieldTexts.IsInstant]

/-- A field with a default holds what its text stands for. -/
theorem exists_given_iff {α : Type} {StandsFor : List UInt8 → α → Prop} {default a : α} :
    (∃ held, Held StandsFor bs held ∧ held.getD default = a) ↔
      ∃ text?, bs = text?.toList ∧ FieldTexts.Given StandsFor default text? a := by
  constructor
  · rintro ⟨held, hheld, rfl⟩
    cases hheld with
    | none => exact ⟨none, rfl, .missing⟩
    | @some text a h => exact ⟨some text, rfl, .text h⟩
  · rintro ⟨text?, rfl, h⟩
    cases h with
    | missing => exact ⟨none, .none, rfl⟩
    | @text text a h => exact ⟨some a, .some h, rfl⟩

end

/-- Members make a user exactly if they give texts of the fields that are those of the user. -/
theorem made_iff {ms : List (String × List UInt8)} {u : Identity} :
    shape.Made slots Writes ms u ↔ ∃ f : FieldTexts, f.GivenBy ms ∧ f.Mean u := by
  simp only [Shape.Made, slots, List.forall_mem_cons, List.not_mem_nil, false_implies,
    implies_true, and_true, Slot.names, finish_eq_ok_iff, makes_bool, makes_text?, makes_instant]
  constructor
  · rintro ⟨⟨_, _, name, verified, _, _, hash⟩,
      ⟨hid, hemail, hname, hverified, hcreated, hupdated, hhash⟩,
      rfl, rfl, hname', hverified', rfl, rfl, hhash'⟩
    obtain ⟨id, hid, hid'⟩ := held_some_iff.mp hid
    obtain ⟨email, hemail, hemail'⟩ := held_some_iff.mp hemail
    obtain ⟨created, hcreated, hcreated'⟩ := held_some_iff.mp hcreated
    obtain ⟨updated, hupdated, hupdated'⟩ := held_some_iff.mp hupdated
    obtain ⟨name?, hname, hname'⟩ := exists_given_iff.mp ⟨name, hname, hname'⟩
    obtain ⟨verified?, hverified, hverified'⟩ :=
      exists_given_iff.mp ⟨verified, hverified, hverified'⟩
    obtain ⟨hash?, hhash, hhash'⟩ := exists_given_iff.mp ⟨hash, hhash, hhash'⟩
    obtain ⟨hid', hword⟩ := makes_id_iff.mp hid'
    exact ⟨⟨id, email, name?, verified?, created, updated, hash?⟩,
      ⟨hid, hemail, hname, hverified, hcreated, hupdated, hhash⟩,
      ⟨hid', hword, makes_string_iff.mp hemail', hname', hverified', hcreated', hupdated', hhash'⟩⟩
  · rintro ⟨f, hgiven, hmean⟩
    obtain ⟨name, hname, hname'⟩ := exists_given_iff.mpr ⟨f.name, hgiven.name, hmean.name⟩
    obtain ⟨verified, hverified, hverified'⟩ :=
      exists_given_iff.mpr ⟨f.emailVerified, hgiven.emailVerified, hmean.emailVerified⟩
    obtain ⟨hash, hhash, hhash'⟩ :=
      exists_given_iff.mpr ⟨f.passwordHash, hgiven.passwordHash, hmean.passwordHash⟩
    have hid := makes_id_iff.mpr ⟨hmean.id, hmean.word⟩
    exact ⟨⟨some u.id, some u.email, name, verified, some u.createdAt, some u.updatedAt, hash⟩,
      ⟨held_some_iff.mpr ⟨f.id, hgiven.id, hid⟩,
        held_some_iff.mpr ⟨f.email, hgiven.email, makes_string_iff.mpr hmean.email⟩, hname,
        hverified, held_some_iff.mpr ⟨f.createdAt, hgiven.createdAt, hmean.createdAt⟩,
        held_some_iff.mpr ⟨f.updatedAt, hgiven.updatedAt, hmean.updatedAt⟩, hhash⟩,
      rfl, rfl, hname', hverified', rfl, rfl, hhash'⟩

/-- A list fits a user if it has all seven elements or lacks the last. -/
theorem fits_iff {n : Nat} : Shape.Fits slots n ↔ n = 6 ∨ n = 7 := by
  constructor
  · rintro ⟨hle, hdefaulted⟩
    have hle' : n ≤ 7 := hle
    -- the point of the last change is the sixth field and has no default
    by_contra hne
    have hsixth : slots[5] ∈ slots.drop n :=
      List.mem_drop_iff_getElem.mpr ⟨5 - n, by simp [slots]; omega, by congr 1; omega⟩
    cases hdefaulted _ hsixth
  · rintro (rfl | rfl)
    · exact ⟨by decide, by simp [slots]⟩
    · exact ⟨by decide, by simp [slots]⟩

/-- Elements in the order of the fields give the texts of the fields exactly if they are all seven,
or all but the last. -/
theorem givenBy_labelled_iff {f : FieldTexts} {items : List (List UInt8)} :
    Shape.Fits slots items.length ∧ f.GivenBy (Shape.labelled slots items) ↔
      ∃ name verified, f.name = some name ∧ f.emailVerified = some verified ∧
        items = [f.id, f.email, name, verified, f.createdAt, f.updatedAt] ++
          f.passwordHash.toList := by
  obtain ⟨id, email, name?, verified?, created, updated, hash?⟩ := f
  rw [fits_iff]
  constructor
  · rintro ⟨hlength | hlength, hgiven⟩
    · match items, hlength with
      | [a, b, c, d, e, g], _ =>
        obtain rfl := (List.cons.inj hgiven.id).1
        obtain rfl := (List.cons.inj hgiven.email).1
        obtain rfl := (List.cons.inj hgiven.createdAt).1
        obtain rfl := (List.cons.inj hgiven.updatedAt).1
        obtain rfl := Option.toList_eq_singleton_iff.mp hgiven.name.symm
        obtain rfl := Option.toList_eq_singleton_iff.mp hgiven.emailVerified.symm
        obtain rfl := Option.toList_eq_nil_iff.mp hgiven.passwordHash.symm
        exact ⟨c, d, rfl, rfl, rfl⟩
    · match items, hlength with
      | [a, b, c, d, e, g, h], _ =>
        obtain rfl := (List.cons.inj hgiven.id).1
        obtain rfl := (List.cons.inj hgiven.email).1
        obtain rfl := (List.cons.inj hgiven.createdAt).1
        obtain rfl := (List.cons.inj hgiven.updatedAt).1
        obtain rfl := Option.toList_eq_singleton_iff.mp hgiven.name.symm
        obtain rfl := Option.toList_eq_singleton_iff.mp hgiven.emailVerified.symm
        obtain rfl := Option.toList_eq_singleton_iff.mp hgiven.passwordHash.symm
        exact ⟨c, d, rfl, rfl, rfl⟩
  · rintro ⟨name, verified, rfl, rfl, rfl⟩
    cases hash? with
    | none => exact ⟨.inl rfl, rfl, rfl, rfl, rfl, rfl, rfl, rfl⟩
    | some hash => exact ⟨.inr rfl, rfl, rfl, rfl, rfl, rfl, rfl, rfl⟩

/-- A text is one of a user exactly if it gives texts of the fields that are those of the user. -/
theorem recordText_iff {text : List UInt8} {u : Identity} :
    Shape.RecordText shape slots text u ↔ ∃ f, Gives text f ∧ f.Mean u := by
  constructor
  · rintro (⟨htext, hmade⟩ | ⟨htext, hfits, hmade⟩)
    · obtain ⟨f, hgiven, hmean⟩ := made_iff.mp hmade
      exact ⟨f, .object htext hgiven, hmean⟩
    · obtain ⟨f, hgiven, hmean⟩ := made_iff.mp hmade
      obtain ⟨name, verified, hname, hverified, rfl⟩ := givenBy_labelled_iff.mp ⟨hfits, hgiven⟩
      exact ⟨f, .list hname hverified htext, hmean⟩
  · rintro ⟨f, ⟨htext, hgiven⟩ | ⟨hname, hverified, htext⟩, hmean⟩
    · exact .object htext (made_iff.mpr ⟨f, hgiven, hmean⟩)
    · obtain ⟨hfits, hgiven⟩ := givenBy_labelled_iff.mpr ⟨_, _, hname, hverified, rfl⟩
      exact .list htext hfits (made_iff.mpr ⟨f, hgiven, hmean⟩)

/-! ## Users -/

/-- The id is the first thing shown of a user. -/
theorem view_get?_id (u : Identity) : u.view.get? "id" = some u.id.toJson := rfl

/-- A text is read as a user exactly if it gives texts of the fields that are those of the user. The
id is shown as it was written, and the order of the members of an object does not matter. -/
theorem ofBytes_eq_ok_iff_gives (bs : List UInt8) :
    (∀ u, ofBytes bs = .ok u ↔ ∃ text f, Padded bs text ∧ Gives text f ∧ f.Mean u) ∧
    (∀ u, ofBytes bs = .ok u → ∃ text f v, Padded bs text ∧ Gives text f ∧ Writes f.id v ∧
      u.view.get? "id" = some v) ∧
    ∀ text ms bs' text' ms', Padded bs text → ObjectText text ms → Padded bs' text' →
      ObjectText text' ms' → ms.Perm ms' → ∀ u, ofBytes bs = .ok u ↔ ofBytes bs' = .ok u := by
  have hread : ∀ u, ofBytes bs = .ok u ↔ ∃ text f, Padded bs text ∧ Gives text f ∧ f.Mean u := by
    intro u
    simp only [ofBytes, Shape.ofBytes_eq_ok_iff slotted scalarFields, recordText_iff,
      exists_and_left]
  refine ⟨hread, ?_, ?_⟩
  · intro u hu
    obtain ⟨text, f, hbs, hgives, hmean⟩ := (hread u).mp hu
    exact ⟨text, f, u.id.toJson, hbs, hgives, hmean.id, view_get?_id u⟩
  · intro text ms bs' text' ms' hbs htext hbs' htext' hperm u
    rw [ofBytes, ofBytes, Shape.ofBytes_object_iff slotted scalarFields hbs htext,
      Shape.ofBytes_object_iff slotted scalarFields hbs' htext']
    exact ⟨fun hmade => hmade.perm hperm, fun hmade => hmade.perm hperm.symm⟩

/-- The members of a user may be written backwards. -/
theorem ofBytes_eq_ok_iff_gives_backwards :
    let more : Value := .array [.object [("id", .null), ("id", .array [])]]
    let ms : List (String × Value) := [
      ("createdAt", .string "1969-12-31T23:59:59.999999999Z"),
      ("more", more),
      ("password_hash", .null),
      ("id", Value.integer (-9223372036854775808)),
      ("emailVerified", .bool true),
      ("email", .string "\"é\u0001@example.com"),
      ("updated_at", .string "2024-02-29T23:59:60.5+01:00")]
    let u : Identity := {
      id := .number (-9223372036854775808)
      email := "\"é\u0001@example.com"
      name := none
      emailVerified := true
      createdAt := ⟨-1, 999999999⟩
      updatedAt := ⟨1709247599, 1500000000⟩
      passwordHash := none }
    ofBytes (Value.object ms).bytes = .ok u ∧ ofBytes (Value.object ms.reverse).bytes = .ok u ∧
      ∃ text f, Padded (Value.object ms).bytes text ∧ Gives text f ∧
        Writes f.id (Value.integer (-9223372036854775808)) := by
  intro more ms u
  have hmembers : ∀ m ∈ ms, m.2.Faithful 3 := by
    have hmore : more.Faithful 3 := by
      refine .array (List.forall_mem_singleton.mpr (.object (List.forall_mem_cons.mpr ⟨?_, ?_⟩)))
      · exact .scalar .null
      · exact List.forall_mem_singleton.mpr (.array nofun)
    simp only [ms, List.forall_mem_cons, List.not_mem_nil, false_implies, implies_true, and_true]
    exact ⟨.scalar (.string _), hmore, .scalar .null, .scalar (.integer ⟨by decide, by decide⟩),
      .scalar (.bool true), .scalar (.string _), .scalar (.string _)⟩
  have hbackwards : ∀ m ∈ ms.reverse, m.2.Faithful 3 :=
    fun m hm => hmembers m (List.mem_reverse.mp hm)
  have hread : ofBytes (Value.object ms).bytes = .ok u := by decide +kernel
  obtain ⟨-, hid, horder⟩ := ofBytes_eq_ok_iff_gives (Value.object ms).bytes
  obtain ⟨text, f, v, hbytes, hgives, hwrites, hview⟩ := hid u hread
  obtain rfl := Option.some.inj hview
  refine ⟨hread, ?_, text, f, hbytes, hgives, hwrites⟩
  refine (horder _ _ _ _ _ (.refl _) (Value.objectText_bytes hmembers) (.refl _)
    (Value.objectText_bytes hbackwards) ?_ u).mp hread
  exact ms.reverse_perm.symm.map _

end Identity

end IdentityGateway
