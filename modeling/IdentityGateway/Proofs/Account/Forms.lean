import IdentityGateway.Account
import IdentityGateway.Proofs.Identity.Forms

/-!
# The texts of account requests

A text is read as a request to log in, to create an account or for new tokens exactly if it is one
of an object or a list that gives each field at most once, as the text of a string. A field that is
not given is empty, and a name may also be `null`.
-/

namespace IdentityGateway

open Identity (exists_given_iff makes_string_iff makes_text?)
open Identity.FieldTexts (Given IsText?)
open Json (Held ListText ObjectText Padded Shape Slot Writes givenBy)

/-! ## Members -/

/-- The members that a text gives: those of an object, or the elements of a list under the names in
their order. A list has at least some number of elements. -/
inductive GivesMembers (names : List String) (least : Nat) (text : List UInt8) :
    List (String × List UInt8) → Prop
  | object {ms : List (String × List UInt8)} (htext : ObjectText text ms) :
      GivesMembers names least text ms
  | list {items : List (List UInt8)} (htext : ListText text items) (hleast : least ≤ items.length)
      (hmost : items.length ≤ names.length) : GivesMembers names least text (names.zip items)

/-- Bytes that are a string in JSON, escapes included. -/
def IsText (text : List UInt8) (s : String) : Prop :=
  Writes text (.string s)

/-- What members give under a name, once or not at all, stands for a thing. -/
def StandsUnder {α : Type} (StandsFor : List UInt8 → α → Prop) (default : α) (name : String)
    (ms : List (String × List UInt8)) (a : α) : Prop :=
  ∃ text?, givenBy [name] ms = text?.toList ∧ Given StandsFor default text? a

/-- Members give a string under a name, or nothing for the empty string. -/
def TextUnder : String → List (String × List UInt8) → String → Prop :=
  StandsUnder IsText ""

/-- Members give a string or `null` under a name, or nothing. -/
def Text?Under : String → List (String × List UInt8) → Option String → Prop :=
  StandsUnder IsText? none

/-! ## Requests -/

/-- A text is a request to log in. -/
def LoginRequest.ReadFrom (bs : List UInt8) (request : LoginRequest) : Prop :=
  ∃ text ms, Padded bs text ∧ GivesMembers ["email", "password"] 0 text ms ∧
    TextUnder "email" ms request.email ∧ TextUnder "password" ms request.password

/-- A text is a request to create an account. A list has all three elements. -/
def RegisterRequest.ReadFrom (bs : List UInt8) (request : RegisterRequest) : Prop :=
  ∃ text ms, Padded bs text ∧ GivesMembers ["email", "password", "name"] 3 text ms ∧
    TextUnder "email" ms request.email ∧ TextUnder "password" ms request.password ∧
    Text?Under "name" ms request.name

/-- A text is a request for new tokens. -/
def RefreshRequest.ReadFrom (bs : List UInt8) (request : RefreshRequest) : Prop :=
  ∃ text ms, Padded bs text ∧ GivesMembers ["refresh_token"] 0 text ms ∧
    TextUnder "refresh_token" ms request.refreshToken

/-! ## Records with such texts -/

section

variable {σ α : Type} {shape : Shape σ α} {slots : List (Slot σ)} {least : Nat}
  {bs : List UInt8} {a : α}

/-- A text is read as a record exactly if it gives members that make the record. -/
theorem ofBytes_eq_ok_iff_givesMembers (hslots : shape.Slotted slots)
    (hscalar : ∀ s ∈ slots, s.codec.ByScalar)
    (hfits : ∀ n, Shape.Fits slots n ↔ least ≤ n ∧ n ≤ slots.length) :
    shape.ofBytes bs = .ok a ↔ ∃ text ms, Padded bs text ∧
      GivesMembers (slots.map Slot.name) least text ms ∧ shape.Made slots Writes ms a := by
  rw [Shape.ofBytes_eq_ok_iff hslots (hslots.scalarFields hscalar)]
  constructor
  · rintro ⟨text, hbs, ⟨htext, hmade⟩ | ⟨htext, hlength, hmade⟩⟩
    · exact ⟨text, _, hbs, .object htext, hmade⟩
    · obtain ⟨hleast, hmost⟩ := (hfits _).mp hlength
      have hmost' : _ ≤ (slots.map Slot.name).length := (List.length_map Slot.name).symm ▸ hmost
      exact ⟨text, _, hbs, .list htext hleast hmost', hmade⟩
  · rintro ⟨text, ms, hbs, hgives, hmade⟩
    refine ⟨text, hbs, ?_⟩
    cases hgives with
    | object htext => exact .object htext hmade
    | list htext hleast hmost =>
      rw [List.length_map] at hmost
      exact .list htext ((hfits _).mpr ⟨hleast, hmost⟩) hmade

/-- Where every field has a default, a list may end anywhere. -/
theorem fits_iff_of_defaulted (h : ∀ s ∈ slots, s.absence = .defaulted) (n : Nat) :
    Shape.Fits slots n ↔ 0 ≤ n ∧ n ≤ slots.length :=
  ⟨fun hfits => ⟨Nat.zero_le n, hfits.le⟩,
    fun ⟨_, hle⟩ => ⟨hle, fun s hs => h s (List.mem_of_mem_drop hs)⟩⟩

/-- A field for a string holds what is given under its name, and is empty if nothing is. -/
theorem textUnder_iff {name : String} {ms : List (String × List UInt8)} {s : String} :
    (∃ held, Held (Json.Codec.string.Makes Writes) (givenBy [name] ms) held ∧
      held.getD "" = s) ↔ TextUnder name ms s := by
  have hmakes : Json.Codec.string.Makes Writes = IsText := by
    funext text s
    exact propext makes_string_iff
  rw [hmakes, exists_given_iff, TextUnder, StandsUnder]

/-- A field for a string or `null` holds what is given under its name, and nothing if nothing is. -/
theorem text?Under_iff {name : String} {ms : List (String × List UInt8)} {s : Option String} :
    (∃ held, Held ((Json.Codec.option .string).Makes Writes) (givenBy [name] ms) held ∧
      held.getD none = s) ↔ Text?Under name ms s := by
  rw [makes_text?, exists_given_iff, Text?Under, StandsUnder]

end

/-! ## Slots -/

namespace LoginRequest

/-- The fields of a request to log in and their places in the draft. -/
def slots : List (Slot Draft) := [
  ⟨"email", [], .defaulted, .string, Draft.email, fun a d => { d with email := some a }⟩,
  ⟨"password", [], .defaulted, .string, Draft.password, fun a d => { d with password := some a }⟩]

/-- The fields of a request to log in are kept apart. -/
theorem slotted : shape.Slotted slots where
  fields := rfl
  blank := by simp [slots, shape]
  get_set := by simp [slots]
  apart := by
    simp only [slots, List.pairwise_cons, List.forall_mem_cons, List.not_mem_nil, false_implies,
      implies_true, and_true, List.Pairwise.nil]
    exact ⟨by decide, fun _ _ => rfl, fun _ _ => rfl⟩
  ext := by
    rintro ⟨_, _⟩ ⟨_, _⟩
    simp [slots]

/-- Members make a request to log in exactly if they give its two strings. -/
theorem made_iff {ms : List (String × List UInt8)} {request : LoginRequest} :
    shape.Made slots Writes ms request ↔
      TextUnder "email" ms request.email ∧ TextUnder "password" ms request.password := by
  simp only [Shape.Made, slots, List.forall_mem_cons, List.not_mem_nil, false_implies,
    implies_true, and_true, Slot.names, ← textUnder_iff]
  constructor
  · rintro ⟨draft, ⟨hemail, hpassword⟩, hfinish⟩
    obtain rfl := Except.ok.inj hfinish
    exact ⟨⟨_, hemail, rfl⟩, _, hpassword, rfl⟩
  · rintro ⟨⟨email, hemail, hemail'⟩, password, hpassword, hpassword'⟩
    obtain rfl : (⟨email.getD "", password.getD ""⟩ : LoginRequest) = request :=
      congrArg₂ mk hemail' hpassword'
    exact ⟨⟨email, password⟩, ⟨hemail, hpassword⟩, rfl⟩

/-- A text is read as a request to log in exactly if it is one. -/
theorem ofBytes_eq_ok_iff {bs : List UInt8} {request : LoginRequest} :
    shape.ofBytes bs = .ok request ↔ ReadFrom bs request := by
  have hscalar : ∀ s ∈ slots, s.codec.ByScalar := by
    simp only [slots, List.forall_mem_cons, List.not_mem_nil, false_implies, implies_true, and_true]
    exact ⟨Json.Codec.byScalar_string, Json.Codec.byScalar_string⟩
  have hfits : ∀ n, Shape.Fits slots n ↔ 0 ≤ n ∧ n ≤ slots.length :=
    fits_iff_of_defaulted (by decide)
  simp only [ofBytes_eq_ok_iff_givesMembers slotted hscalar hfits, made_iff]
  rfl

end LoginRequest

namespace RegisterRequest

/-- The fields of a request to create an account and their places in the draft. -/
def slots : List (Slot Draft) := [
  ⟨"email", [], .defaulted, .string, Draft.email, fun a d => { d with email := some a }⟩,
  ⟨"password", [], .defaulted, .string, Draft.password, fun a d => { d with password := some a }⟩,
  ⟨"name", [], .optional, .option .string, Draft.name, fun a d => { d with name := some a }⟩]

/-- The fields of a request to create an account are kept apart. -/
theorem slotted : shape.Slotted slots where
  fields := rfl
  blank := by simp [slots, shape]
  get_set := by simp [slots]
  apart := by
    simp only [slots, List.pairwise_cons, List.forall_mem_cons, List.not_mem_nil, false_implies,
      implies_true, and_true, List.Pairwise.nil]
    and_intros <;> exact ⟨by decide, fun _ _ => rfl, fun _ _ => rfl⟩
  ext := by
    rintro ⟨_, _, _⟩ ⟨_, _, _⟩
    simp [slots]

/-- Members make a request to create an account exactly if they give its strings. -/
theorem made_iff {ms : List (String × List UInt8)} {request : RegisterRequest} :
    shape.Made slots Writes ms request ↔
      TextUnder "email" ms request.email ∧ TextUnder "password" ms request.password ∧
        Text?Under "name" ms request.name := by
  simp only [Shape.Made, slots, List.forall_mem_cons, List.not_mem_nil, false_implies,
    implies_true, and_true, Slot.names, ← textUnder_iff, ← text?Under_iff]
  constructor
  · rintro ⟨draft, ⟨hemail, hpassword, hname⟩, hfinish⟩
    obtain rfl := Except.ok.inj hfinish
    exact ⟨⟨_, hemail, rfl⟩, ⟨_, hpassword, rfl⟩, _, hname, rfl⟩
  · rintro ⟨⟨email, hemail, hemail'⟩, ⟨password, hpassword, hpassword'⟩, name, hname, hname'⟩
    refine ⟨⟨email, password, name⟩, ⟨hemail, hpassword, hname⟩, ?_⟩
    change Except.ok (⟨email.getD "", password.getD "", name.getD none⟩ : RegisterRequest) = _
    rw [hemail', hpassword', hname']

/-- A list fits a request to create an account only with all three elements, as the name has no
default. -/
theorem fits_iff (n : Nat) : Shape.Fits slots n ↔ 3 ≤ n ∧ n ≤ slots.length := by
  constructor
  · rintro ⟨hle, hdefaulted⟩
    refine ⟨?_, hle⟩
    by_contra hless
    have hname : slots[2] ∈ slots.drop n :=
      List.mem_drop_iff_getElem.mpr ⟨2 - n, by simp [slots]; omega, by congr 1; omega⟩
    cases hdefaulted _ hname
  · rintro ⟨hleast, hmost⟩
    have hdrop : slots.drop n = [] := List.drop_eq_nil_of_le hleast
    exact ⟨hmost, fun s hs => absurd hs (hdrop ▸ List.not_mem_nil)⟩

/-- A text is read as a request to create an account exactly if it is one. -/
theorem ofBytes_eq_ok_iff {bs : List UInt8} {request : RegisterRequest} :
    shape.ofBytes bs = .ok request ↔ ReadFrom bs request := by
  have hscalar : ∀ s ∈ slots, s.codec.ByScalar := by
    simp only [slots, List.forall_mem_cons, List.not_mem_nil, false_implies, implies_true, and_true]
    exact ⟨Json.Codec.byScalar_string, Json.Codec.byScalar_string,
      Json.Codec.byScalar_string.option⟩
  simp only [ofBytes_eq_ok_iff_givesMembers slotted hscalar fits_iff, made_iff]
  rfl

end RegisterRequest

namespace RefreshRequest

/-- The field of a request for new tokens and its place in the draft. -/
def slots : List (Slot Draft) := [
  ⟨"refresh_token", [], .defaulted, .string, Draft.refreshToken,
    fun a d => { d with refreshToken := some a }⟩]

/-- The only field of a request for new tokens is the whole draft. -/
theorem slotted : shape.Slotted slots where
  fields := rfl
  blank := by simp [slots, shape]
  get_set := by simp [slots]
  apart := List.pairwise_singleton _ _
  ext := by
    rintro ⟨_⟩ ⟨_⟩
    simp [slots]

/-- Members make a request for new tokens exactly if they give its string. -/
theorem made_iff {ms : List (String × List UInt8)} {request : RefreshRequest} :
    shape.Made slots Writes ms request ↔
      TextUnder "refresh_token" ms request.refreshToken := by
  simp only [Shape.Made, slots, List.forall_mem_cons, List.not_mem_nil, false_implies,
    implies_true, and_true, Slot.names, ← textUnder_iff]
  constructor
  · rintro ⟨draft, htoken, hfinish⟩
    obtain rfl := Except.ok.inj hfinish
    exact ⟨_, htoken, rfl⟩
  · rintro ⟨token, htoken, htoken'⟩
    obtain rfl : (⟨token.getD ""⟩ : RefreshRequest) = request := congrArg mk htoken'
    exact ⟨⟨token⟩, htoken, rfl⟩

/-- A text is read as a request for new tokens exactly if it is one. -/
theorem ofBytes_eq_ok_iff {bs : List UInt8} {request : RefreshRequest} :
    shape.ofBytes bs = .ok request ↔ ReadFrom bs request := by
  have hscalar : ∀ s ∈ slots, s.codec.ByScalar :=
    List.forall_mem_singleton.mpr Json.Codec.byScalar_string
  have hfits : ∀ n, Shape.Fits slots n ↔ 0 ≤ n ∧ n ≤ slots.length :=
    fits_iff_of_defaulted (by decide)
  simp only [ofBytes_eq_ok_iff_givesMembers slotted hscalar hfits, made_iff]
  rfl

end RefreshRequest

end IdentityGateway
