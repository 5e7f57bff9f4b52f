import IdentityGateway.Identity
import IdentityGateway.Proofs.Json.Embedded
import IdentityGateway.Proofs.Json.Records
import IdentityGateway.Proofs.Timestamp.Written

/-!
# Users shown and read

A user that is shown to a client is read back by a core with the same id, address, name and mark of
verification. The points in time lose their fractions of a second, and the password hash is not
shown at all. A user that was read back is shown as before.
-/

namespace IdentityGateway

open Json (Value Mismatch Codec Shape)

variable {levels : Nat}

namespace UserId

/-- An id that has 64 bits, if it is a number. -/
def HasWord : UserId → Prop
  | .number n => -(Nat.pow 2 63 : Int) ≤ n ∧ n < Nat.pow 2 63
  | .text _ => True

/-- Such an id is a scalar. -/
theorem scalar_toJson {id : UserId} (hid : id.HasWord) : id.toJson.Scalar := by
  cases id with
  | number n => exact .integer ⟨hid.1, Int.lt_trans hid.2 (by decide)⟩
  | text s => exact .string s

/-- A shown id is read from a value. -/
theorem readsValue {id : UserId} (hid : id.HasWord) : codec.ReadsValue id.toJson.held id := by
  cases id with
  | number n => exact if_pos hid
  | text s => rfl

/-- A shown id is read from a text. -/
theorem readsText {id : UserId} (hid : id.HasWord) : codec.ReadsText levels id.toJson id :=
  Codec.readsText_ofValue (.scalar (scalar_toJson hid)) (readsValue hid)

end UserId

namespace Timestamp

variable {t : Timestamp}

/-- A shown point in time is accepted without its fraction. -/
theorem readsValue (ht : t.isSupported = true) :
    codec.ReadsValue (.string t.text) t.wholeSeconds := by
  simp only [Codec.ReadsValue, codec, Codec.ofToken, Value.token, ofText_text ht]

/-- A shown point in time is read from a text without its fraction. -/
theorem readsText (ht : t.isSupported = true) :
    codec.ReadsText levels (.string t.text) t.wholeSeconds := by
  have hvalue := readsValue ht
  rw [codec] at hvalue ⊢
  exact Codec.readsText_ofToken (.string t.text) hvalue

end Timestamp

namespace Identity

/-- A user whose id and points in time are in the ranges that cores use. -/
structure Representable (u : Identity) : Prop where
  id : u.id.HasWord
  createdAt : u.createdAt.isSupported = true
  updatedAt : u.updatedAt.isSupported = true

/-- What clients are shown of a user. -/
def shown (u : Identity) : Identity :=
  { u with
    createdAt := u.createdAt.wholeSeconds
    updatedAt := u.updatedAt.wholeSeconds
    passwordHash := none }

/-- A user is shown as what clients are shown of them. -/
theorem view_shown (u : Identity) : u.shown.view = u.view := by
  simp only [view, shown, Timestamp.text_wholeSeconds]

variable {u : Identity}

/-- The text shown for a user is read as what clients are shown of them, for which the same text is
shown again. -/
theorem user_view_reads_back (hu : u.Representable) :
    ofBytes u.view.text.toUTF8.toList = .ok u.shown ∧ u.shown.view.text = u.view.text := by
  refine ⟨?_, by rw [view_shown]⟩
  rw [Value.toList_toUTF8_text, ofBytes]
  -- the fields are given in the order in which they are shown, and the password hash is not
  have hmembers : shape.Takes (Codec.ReadsText (Json.nestingLimit - 1)) shape.blank
      [("id", u.id.toJson), ("email", .string u.email), ("name", Value.ofText? u.name),
        ("emailVerified", .bool u.emailVerified), ("createdAt", .string u.createdAt.text),
        ("updatedAt", .string u.updatedAt.text)]
      ⟨u.id, u.email, some u.name, u.emailVerified, u.createdAt.wholeSeconds,
        u.updatedAt.wholeSeconds, none⟩ :=
    .cons rfl rfl ((UserId.readsText hu.id).map _) <|
    .cons rfl rfl ((Codec.readsText_string u.email).map _) <|
    .cons rfl rfl ((Codec.readsText_text? u.name).map _) <|
    .cons rfl rfl ((Codec.readsText_bool u.emailVerified).map _) <|
    .cons rfl rfl ((Timestamp.readsText hu.createdAt).map _) <|
    .cons rfl rfl ((Timestamp.readsText hu.updatedAt).map _) .nil
  exact hmembers.ofBytes rfl

/-- What clients are shown of a user is one object of scalars, in which no text is embedded. -/
theorem plain_view (hu : u.Representable) : u.view.Plain (levels + 1) := by
  refine .object (fun m hm => ?_) ?_
  · obtain rfl := Option.some.inj hm
    exact show "id" ≠ Json.embeddedKey by decide
  · simp only [List.forall_mem_cons, List.not_mem_nil, false_implies, implies_true, and_true]
    exact ⟨.scalar (UserId.scalar_toJson hu.id), .scalar (.string u.email),
      .scalar (Value.scalar_ofText? u.name), .scalar (.bool u.emailVerified),
      .scalar (.string u.createdAt.text), .scalar (.string u.updatedAt.text)⟩

/-- The value shown for a user is read as what clients are shown of them. -/
theorem readsValue (hu : u.Representable) : shape.codec.ReadsValue u.view.held u.shown := by
  -- the members are held in the order of their keys
  have hmembers : shape.Takes Codec.ReadsValue shape.blank
      [("createdAt", .string u.createdAt.text), ("email", .string u.email),
        ("emailVerified", .bool u.emailVerified), ("id", u.id.toJson.held),
        ("name", (Value.ofText? u.name).held), ("updatedAt", .string u.updatedAt.text)]
      ⟨u.id, u.email, some u.name, u.emailVerified, u.createdAt.wholeSeconds,
        u.updatedAt.wholeSeconds, none⟩ :=
    .cons rfl rfl ((Timestamp.readsValue hu.createdAt).map _) <|
    .cons rfl rfl ((Codec.readsValue_string u.email).map _) <|
    .cons rfl rfl ((Codec.readsValue_bool u.emailVerified).map _) <|
    .cons rfl rfl ((UserId.readsValue hu.id).map _) <|
    .cons rfl rfl ((Codec.readsValue_text? u.name).map _) <|
    .cons rfl rfl ((Timestamp.readsValue hu.updatedAt).map _) .nil
  exact hmembers.readsValue rfl

/-- A user created in a leap second long before the common era, with an id like a number. -/
theorem user_view_reads_back_leapSecond :
    let u : Identity := {
      id := .text "007"
      email := "\"\\\u0001é𝒜@example.com"
      name := none
      emailVerified := true
      createdAt := ⟨-451706198401, 1999999999⟩
      updatedAt := ⟨327376901107, 5⟩
      passwordHash := some "hash" }
    u.Representable ∧ u.createdAt.text = "-12345-12-31T23:59:60+00:00" ∧
      u.updatedAt.text = "+12344-02-29T12:05:07+00:00" ∧
      ofBytes u.view.text.toUTF8.toList = .ok { u with
        createdAt := ⟨-451706198401, 1000000000⟩
        updatedAt := ⟨327376901107, 0⟩
        passwordHash := none } := by
  intro u
  have hu : u.Representable := ⟨trivial, by decide, by decide⟩
  exact ⟨hu, by decide, by decide, (user_view_reads_back hu).1⟩

end Identity

end IdentityGateway
