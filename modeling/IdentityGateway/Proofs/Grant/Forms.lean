import IdentityGateway.Grant
import IdentityGateway.Proofs.Identity.Forms

/-!
# The forms of a grant

A value is a grant in one of two forms: a session with its user, or a pair of tokens. The keys of an
object alone decide between them, and no value is tried in both.
-/

namespace IdentityGateway

open Json (Value Codec Shape Slot Held givenBy held_some_iff)

namespace Grant

/-! ## Forms -/

/-- At most one value is there, which is `null` or is read as a thing. -/
inductive Optionally {α : Type} (Reads : Value → α → Prop) : List Value → Option α → Prop
  | absent : Optionally Reads [] none
  | null : Optionally Reads [.null] none
  | given {v : Value} {a : α} (h : Reads v a) : Optionally Reads [v] (some a)

/-- A value is a string. -/
def IsText (v : Value) (s : String) : Prop :=
  v = .string s

/-- A value is an integer of 64 bits without a sign. -/
def IsCount (v : Value) (n : Nat) : Prop :=
  v = Value.integer n ∧ n < Nat.pow 2 64

/-- A value is accepted as a user. -/
def IsUser (v : Value) (u : Identity) : Prop :=
  Identity.shape.ofValue v = .ok u

/-- A value is a session: an object with a token and perhaps an end, or a list of these. -/
inductive IsSession : Value → Session → Prop
  | object {ms : List (String × Value)} {s : Session}
      (htoken : givenBy ["token"] ms = [.string s.token])
      (hend : Optionally Timestamp.IsInstant (givenBy ["expires_at"] ms) s.expiresAt) :
      IsSession (.object ms) s
  | array {more : List Value} {s : Session}
      (hend : Optionally Timestamp.IsInstant more s.expiresAt) :
      IsSession (.array (.string s.token :: more)) s

/-- What a pair of tokens is made of, each part being given as a list of values. -/
structure PairParts (accessToken refreshToken expiresIn tokenType user : List Value)
    (pair : TokenPair) : Prop where
  accessToken : accessToken = [.string pair.accessToken]
  refreshToken : Optionally IsText refreshToken pair.refreshToken
  expiresIn : Optionally IsCount expiresIn pair.expiresIn
  tokenType : Optionally IsText tokenType pair.tokenType
  user : ∃ v, user = [v] ∧ IsUser v pair.user

/-- A value is a pair of tokens: an object with its parts, or a list of all five in order. -/
inductive IsPair : Value → TokenPair → Prop
  | object {ms : List (String × Value)} {pair : TokenPair}
      (hparts : PairParts (givenBy ["access_token"] ms) (givenBy ["refresh_token"] ms)
        (givenBy ["expires_in"] ms) (givenBy ["token_type"] ms) (givenBy ["user"] ms) pair) :
      IsPair (.object ms) pair
  | array {a r e t u : Value} {pair : TokenPair} (hparts : PairParts [a] [r] [e] [t] [u] pair) :
      IsPair (.array [a, r, e, t, u]) pair

/-- A value is an object that has the key of a session, and not that of an access token. -/
def KeyedSession (v : Value) : Prop :=
  ∃ ms, v = .object ms ∧ givenBy ["session"] ms ≠ [] ∧ givenBy ["access_token"] ms = []

/-- A value is a session with its user: an object with both, and without an access token. -/
def IsEnvelope (v : Value) (s : Session) (u : Identity) : Prop :=
  ∃ ms w x, v = .object ms ∧ givenBy ["access_token"] ms = [] ∧ givenBy ["session"] ms = [w] ∧
    IsSession w s ∧ givenBy ["user"] ms = [x] ∧ IsUser x u

end Grant

/-! ## Slots -/

/-- The fields of a session and their places in its draft. -/
def Session.slots : List (Slot Session.Draft) := [
  ⟨"token", [], .required, .string, Session.Draft.token,
    fun a d => { d with token := some a }⟩,
  ⟨"expires_at", [], .defaulted, .option Timestamp.codec, Session.Draft.expiresAt,
    fun a d => { d with expiresAt := some a }⟩]

/-- The fields of a session are kept apart. -/
theorem Session.slotted : Session.shape.Slotted Session.slots where
  fields := rfl
  blank := by simp [slots, shape]
  get_set := by simp [slots]
  apart := by
    simp only [slots, List.pairwise_cons, List.forall_mem_cons, List.not_mem_nil, false_implies,
      implies_true, and_true, List.Pairwise.nil]
    exact ⟨by decide, fun _ _ => rfl, fun _ _ => rfl⟩
  ext := by
    rintro ⟨_, _⟩ ⟨_, _⟩
    simp [slots]

/-- The fields of a pair of tokens and their places in its draft. -/
def TokenPair.slots : List (Slot TokenPair.Draft) := [
  ⟨"access_token", [], .required, .string, TokenPair.Draft.accessToken,
    fun a d => { d with accessToken := some a }⟩,
  ⟨"refresh_token", [], .defaulted, .option .string, TokenPair.Draft.refreshToken,
    fun a d => { d with refreshToken := some a }⟩,
  ⟨"expires_in", [], .defaulted, .option .word, TokenPair.Draft.expiresIn,
    fun a d => { d with expiresIn := some a }⟩,
  ⟨"token_type", [], .defaulted, .option .string, TokenPair.Draft.tokenType,
    fun a d => { d with tokenType := some a }⟩,
  ⟨"user", [], .required, Identity.shape.codec, TokenPair.Draft.user,
    fun a d => { d with user := some a }⟩]

/-- The fields of a pair of tokens are kept apart. -/
theorem TokenPair.slotted : TokenPair.shape.Slotted TokenPair.slots where
  fields := rfl
  blank := by simp [slots, shape]
  get_set := by simp [slots]
  apart := by
    simp only [slots, List.pairwise_cons, List.forall_mem_cons, List.not_mem_nil, false_implies,
      implies_true, and_true, List.Pairwise.nil]
    and_intros <;> exact ⟨by decide, fun _ _ => rfl, fun _ _ => rfl⟩
  ext := by
    rintro ⟨_, _, _, _, _⟩ ⟨_, _, _, _, _⟩
    simp [slots]

/-- The fields of a session with its user and their places in the draft. -/
def Grant.envelopeSlots : List (Slot Grant.EnvelopeDraft) := [
  ⟨"session", [], .required, Session.shape.codec, Grant.EnvelopeDraft.session,
    fun a d => { d with session := some a }⟩,
  ⟨"user", [], .required, Identity.shape.codec, Grant.EnvelopeDraft.user,
    fun a d => { d with user := some a }⟩]

/-- The fields of a session with its user are kept apart. -/
theorem Grant.slotted_envelopeShape : Grant.envelopeShape.Slotted Grant.envelopeSlots where
  fields := rfl
  blank := by simp [envelopeSlots, envelopeShape]
  get_set := by simp [envelopeSlots]
  apart := by
    simp only [envelopeSlots, List.pairwise_cons, List.forall_mem_cons, List.not_mem_nil,
      false_implies, implies_true, and_true, List.Pairwise.nil]
    exact ⟨by decide, fun _ _ => rfl, fun _ _ => rfl⟩
  ext := by
    rintro ⟨_, _⟩ ⟨_, _⟩
    simp [envelopeSlots]

/-! ## Parts -/

/-- An optional field without a value is held like one whose value is `null`. -/
theorem Grant.optionally_iff {α : Type} {c : Codec α} {vs : List Value} {a : Option α}
    (hnull : ∀ a, c.fromValue .null ≠ .ok a) :
    (∃ held, Held ((Codec.option c).Makes Eq) vs held ∧ held.getD none = a) ↔
      Optionally (fun v a => c.fromValue v = .ok a) vs a := by
  constructor
  · rintro ⟨held, hheld, rfl⟩
    cases hheld with
    | none => exact .absent
    | @some v o hmakes =>
      rcases Codec.fromValue_option_iff.mp (Codec.makes_eq_iff.mp hmakes) with
        ⟨rfl, rfl⟩ | ⟨-, a, ha, rfl⟩
      · exact .null
      · exact .given ha
  · intro h
    cases h with
    | absent => exact ⟨none, .none, rfl⟩
    | null => exact ⟨some none, .some (Codec.makes_eq_iff.mpr rfl), rfl⟩
    | @given v a ha =>
      refine ⟨some (some a), .some (Codec.makes_eq_iff.mpr ?_), rfl⟩
      refine Codec.fromValue_option_iff.mpr (.inr ⟨?_, a, ha, rfl⟩)
      rintro rfl
      exact hnull a ha

section

variable {vs : List Value}

/-- A text that has to be given is held if it is the only value. -/
theorem Grant.held_string_iff {s : String} :
    Held (Codec.string.Makes Eq) vs (some s) ↔ vs = [.string s] := by
  simp only [held_some_iff, Codec.makes_eq_iff, Codec.fromValue_string_iff, exists_eq_right]

/-- Optional texts of a grant, such as the type of a token, hold nothing, `null` or a string. -/
theorem Grant.held_text?_iff {s : Option String} :
    (∃ held, Held ((Codec.option .string).Makes Eq) vs held ∧ held.getD none = s) ↔
      Optionally IsText vs s := by
  rw [optionally_iff nofun]
  simp only [Codec.fromValue_string_iff]
  rfl

/-- A number may be given. -/
theorem Grant.held_count?_iff {n : Option Nat} :
    (∃ held, Held ((Codec.option .word).Makes Eq) vs held ∧ held.getD none = n) ↔
      Optionally IsCount vs n := by
  rw [optionally_iff nofun]
  simp only [Codec.fromValue_word_iff]
  rfl

/-- A point in time may be given. -/
theorem Grant.held_instant?_iff {t : Option Timestamp} :
    (∃ held, Held ((Codec.option Timestamp.codec).Makes Eq) vs held ∧ held.getD none = t) ↔
      Optionally Timestamp.IsInstant vs t := by
  rw [optionally_iff nofun]
  simp only [Timestamp.fromValue_codec_iff]

/-- The user of a grant holds one value that is accepted as a user. -/
theorem Grant.held_user_iff {u : Identity} :
    Held (Identity.shape.codec.Makes Eq) vs (some u) ↔ ∃ v, vs = [v] ∧ IsUser v u := by
  simp only [held_some_iff, Codec.makes_eq_iff]
  rfl

end

/-! ## Records -/

/-- A draft of a session is finished if it has a token. -/
theorem Session.finish_eq_ok_iff {d : Session.Draft} {s : Session} :
    Session.shape.finish d = .ok s ↔
      d.token = some s.token ∧ d.expiresAt.getD none = s.expiresAt := by
  obtain ⟨token, expiresAt⟩ := d
  obtain ⟨token', expiresAt'⟩ := s
  cases token with
  | none => simp [shape, Json.given, bind, Except.bind]
  | some token => simp [shape, Json.given, bind, Except.bind, pure, Except.pure]

/-- A session is made of its token and, if it is given, its end. -/
theorem Session.made_iff {ms : List (String × Value)} {s : Session} :
    Session.shape.Made Session.slots Eq ms s ↔ givenBy ["token"] ms = [.string s.token] ∧
      Grant.Optionally Timestamp.IsInstant (givenBy ["expires_at"] ms) s.expiresAt := by
  simp only [Shape.Made, slots, List.forall_mem_cons, List.not_mem_nil, false_implies,
    implies_true, and_true, Slot.names, finish_eq_ok_iff, ← Grant.held_string_iff,
    ← Grant.held_instant?_iff]
  constructor
  · rintro ⟨⟨token, expiresAt⟩, ⟨htoken, hexpires⟩, rfl, heq⟩
    exact ⟨htoken, expiresAt, hexpires, heq⟩
  · rintro ⟨htoken, expiresAt, hexpires, heq⟩
    exact ⟨⟨some s.token, expiresAt⟩, ⟨htoken, hexpires⟩, rfl, heq⟩

/-- A draft of a pair of tokens is finished if it has an access token and a user. -/
theorem TokenPair.finish_eq_ok_iff {d : TokenPair.Draft} {pair : TokenPair} :
    TokenPair.shape.finish d = .ok pair ↔ d.accessToken = some pair.accessToken ∧
      d.refreshToken.getD none = pair.refreshToken ∧ d.expiresIn.getD none = pair.expiresIn ∧
      d.tokenType.getD none = pair.tokenType ∧ d.user = some pair.user := by
  obtain ⟨accessToken, refreshToken, expiresIn, tokenType, user⟩ := d
  obtain ⟨accessToken', refreshToken', expiresIn', tokenType', user'⟩ := pair
  cases accessToken with
  | none => simp [shape, Json.given, bind, Except.bind]
  | some accessToken =>
    cases user with
    | none => simp [shape, Json.given, bind, Except.bind]
    | some user => simp [shape, Json.given, bind, Except.bind, pure, Except.pure]

/-- Members make a token pair exactly if what they give under each key is a part of one. -/
theorem TokenPair.made_iff {ms : List (String × Value)} {pair : TokenPair} :
    TokenPair.shape.Made TokenPair.slots Eq ms pair ↔
      Grant.PairParts (givenBy ["access_token"] ms) (givenBy ["refresh_token"] ms)
        (givenBy ["expires_in"] ms) (givenBy ["token_type"] ms) (givenBy ["user"] ms) pair := by
  simp only [Shape.Made, slots, List.forall_mem_cons, List.not_mem_nil, false_implies,
    implies_true, and_true, Slot.names, finish_eq_ok_iff]
  constructor
  · rintro ⟨⟨_, refreshToken, expiresIn, tokenType, _⟩,
      ⟨haccess, hrefresh, hexpires, htype, huser⟩, rfl, hrefresh', hexpires', htype', rfl⟩
    exact {
      accessToken := Grant.held_string_iff.mp haccess
      refreshToken := Grant.held_text?_iff.mp ⟨refreshToken, hrefresh, hrefresh'⟩
      expiresIn := Grant.held_count?_iff.mp ⟨expiresIn, hexpires, hexpires'⟩
      tokenType := Grant.held_text?_iff.mp ⟨tokenType, htype, htype'⟩
      user := Grant.held_user_iff.mp huser }
  · intro h
    obtain ⟨refreshToken, hrefresh, hrefresh'⟩ := Grant.held_text?_iff.mpr h.refreshToken
    obtain ⟨expiresIn, hexpires, hexpires'⟩ := Grant.held_count?_iff.mpr h.expiresIn
    obtain ⟨tokenType, htype, htype'⟩ := Grant.held_text?_iff.mpr h.tokenType
    exact ⟨⟨some pair.accessToken, refreshToken, expiresIn, tokenType, some pair.user⟩,
      ⟨Grant.held_string_iff.mpr h.accessToken, hrefresh, hexpires, htype,
        Grant.held_user_iff.mpr h.user⟩, rfl, hrefresh', hexpires', htype', rfl⟩

namespace Grant

/-- A draft of a session with its user is finished if it has both. -/
theorem finish_envelope_eq_ok_iff {d : EnvelopeDraft} {g : Grant} :
    envelopeShape.finish d = .ok g ↔
      ∃ s u, d.session = some s ∧ d.user = some u ∧ g = .session s u := by
  obtain ⟨session, user⟩ := d
  cases session with
  | none => simp [envelopeShape, Json.given, bind, Except.bind]
  | some session =>
    cases user with
    | none => simp [envelopeShape, Json.given, bind, Except.bind]
    | some user => simp [envelopeShape, Json.given, bind, Except.bind, pure, Except.pure, eq_comm]

/-- A list of one element fits a session, and so does a list of two. -/
theorem fits_session_iff {n : Nat} : Shape.Fits Session.slots n ↔ n = 1 ∨ n = 2 := by
  constructor
  · rintro ⟨hle, hdefaulted⟩
    have hle' : n ≤ 2 := hle
    match n with
    | 0 => cases hdefaulted _ List.mem_cons_self
    | 1 => exact .inl rfl
    | 2 => exact .inr rfl
  · rintro (rfl | rfl)
    · exact ⟨by decide, by simp [Session.slots]⟩
    · exact ⟨by decide, by simp [Session.slots]⟩

/-- Only a list of all five parts fits a pair of tokens. -/
theorem fits_pair_iff {n : Nat} : Shape.Fits TokenPair.slots n ↔ n = 5 := by
  constructor
  · rintro ⟨hle, hdefaulted⟩
    have hle' : n ≤ 5 := hle
    -- the user is the last field and has no default
    by_contra hne
    have hlast : TokenPair.slots[4] ∈ TokenPair.slots.drop n :=
      List.mem_drop_iff_getElem.mpr ⟨4 - n, by simp [TokenPair.slots]; omega, by congr 1; omega⟩
    cases hdefaulted _ hlast
  · rintro rfl
    exact ⟨Nat.le_refl 5, nofun⟩

/-- A value is read as a session exactly if it is one. -/
theorem ofValue_session_iff {v : Value} {s : Session} :
    Session.shape.ofValue v = .ok s ↔ IsSession v s := by
  cases v with
  | object ms =>
    rw [Shape.ofValue_object_iff Session.slotted, Session.made_iff]
    constructor
    · rintro ⟨htoken, hend⟩
      exact .object htoken hend
    · rintro (⟨htoken, hend⟩ | _)
      exact ⟨htoken, hend⟩
  | array vs =>
    rw [Shape.ofValue_array_iff Session.slotted, Session.made_iff, fits_session_iff]
    constructor
    · rintro ⟨hlength | hlength, htoken, hend⟩
      · obtain ⟨v, rfl⟩ := List.length_eq_one_iff.mp hlength
        obtain rfl : v = .string s.token := (List.cons.inj htoken).1
        exact .array hend
      · match vs, hlength with
        | [v, w], _ =>
          obtain rfl : v = .string s.token := (List.cons.inj htoken).1
          exact .array hend
    · obtain ⟨token, expiresAt⟩ := s
      rintro (_ | hend)
      cases hend with
      | absent => exact ⟨.inl rfl, rfl, .absent⟩
      | null => exact ⟨.inr rfl, rfl, .null⟩
      | given h => exact ⟨.inr rfl, rfl, .given h⟩
  | _ => exact ⟨nofun, nofun⟩

/-- A value is read as a pair of tokens exactly if it is one. -/
theorem ofValue_pair_iff {v : Value} {pair : TokenPair} :
    TokenPair.shape.ofValue v = .ok pair ↔ IsPair v pair := by
  cases v with
  | object ms =>
    rw [Shape.ofValue_object_iff TokenPair.slotted, TokenPair.made_iff]
    constructor
    · intro hparts
      exact .object hparts
    · rintro (hparts | _)
      exact hparts
  | array vs =>
    rw [Shape.ofValue_array_iff TokenPair.slotted, TokenPair.made_iff, fits_pair_iff]
    constructor
    · rintro ⟨hlength, hparts⟩
      match vs, hlength with
      | [a, r, e, t, u], _ => exact .array hparts
    · rintro (_ | hparts)
      exact ⟨rfl, hparts⟩
  | _ => exact ⟨nofun, nofun⟩

/-- An object is read as a session with its user exactly if it gives both. -/
theorem ofValue_envelope_iff {ms : List (String × Value)} {g : Grant} :
    envelopeShape.ofValue (.object ms) = .ok g ↔ ∃ s u w x, g = .session s u ∧
      givenBy ["session"] ms = [w] ∧ IsSession w s ∧ givenBy ["user"] ms = [x] ∧ IsUser x u := by
  have hsession : ∀ {s : Session}, Held (Session.shape.codec.Makes Eq) (givenBy ["session"] ms)
      (some s) ↔ ∃ w, givenBy ["session"] ms = [w] ∧ IsSession w s := by
    intro s
    simp only [held_some_iff, Codec.makes_eq_iff, ← ofValue_session_iff]
    rfl
  rw [Shape.ofValue_object_iff slotted_envelopeShape]
  simp only [Shape.Made, envelopeSlots, List.forall_mem_cons, List.not_mem_nil, false_implies,
    implies_true, and_true, Slot.names, finish_envelope_eq_ok_iff]
  constructor
  · rintro ⟨⟨_, _⟩, ⟨hs, hu⟩, s, u, rfl, rfl, rfl⟩
    obtain ⟨w, hw, hs⟩ := hsession.mp hs
    obtain ⟨x, hx, hu⟩ := held_user_iff.mp hu
    exact ⟨s, u, w, x, rfl, hw, hs, hx, hu⟩
  · rintro ⟨s, u, w, x, rfl, hw, hs, hx, hu⟩
    exact ⟨⟨some s, some u⟩, ⟨hsession.mpr ⟨w, hw, hs⟩, held_user_iff.mpr ⟨x, hx, hu⟩⟩, s, u, rfl,
      rfl, rfl⟩

/-! ## The choice between the forms -/

/-- A key is missing from an object exactly if nothing is given under it. -/
theorem get?_eq_none_iff {ms : List (String × Value)} {key : String} :
    (Value.object ms).get? key = none ↔ givenBy [key] ms = [] := by
  simp only [Value.get?, givenBy, Option.map_eq_none_iff, List.find?_eq_none, List.map_eq_nil_iff,
    List.filter_eq_nil_iff, List.contains_cons, List.contains_nil, Bool.or_false]

/-- The keys alone decide that a value is a session. -/
theorem isSession_iff {v : Value} : isSession v = true ↔ KeyedSession v := by
  cases v with
  | object ms =>
    rw [isSession, Bool.and_eq_true, Option.isNone_iff_eq_none, get?_eq_none_iff,
      Option.isSome_iff_ne_none, ne_eq, get?_eq_none_iff]
    constructor
    · rintro ⟨hsession, haccess⟩
      exact ⟨ms, rfl, hsession, haccess⟩
    · rintro ⟨_, heq, hsession, haccess⟩
      obtain rfl := Value.object.inj heq
      exact ⟨hsession, haccess⟩
  | _ => exact ⟨nofun, nofun⟩

/-- A value with the keys of a session is read as a session with its user only. -/
theorem ofJson_of_keyedSession {v : Value} {g : Grant} (h : KeyedSession v) :
    ofJson v = .ok g ↔ ∃ s u, g = .session s u ∧ IsEnvelope v s u := by
  rw [ofJson, if_pos (isSession_iff.mpr h)]
  obtain ⟨ms, rfl, -, haccess⟩ := h
  rw [ofValue_envelope_iff]
  constructor
  · rintro ⟨s, u, w, x, rfl, hw, hs, hx, hu⟩
    exact ⟨s, u, rfl, ms, w, x, rfl, haccess, hw, hs, hx, hu⟩
  · rintro ⟨s, u, rfl, _, w, x, heq, -, hw, hs, hx, hu⟩
    obtain rfl := Value.object.inj heq
    exact ⟨s, u, w, x, rfl, hw, hs, hx, hu⟩

/-- A value without the keys of a session is read as a pair of tokens only. -/
theorem ofJson_of_not_keyedSession {v : Value} {g : Grant} (h : ¬ KeyedSession v) :
    ofJson v = .ok g ↔ ∃ pair, g = .tokenPair pair ∧ IsPair v pair := by
  rw [ofJson, if_neg (mt isSession_iff.mp h)]
  simp only [← ofValue_pair_iff]
  cases TokenPair.shape.ofValue v with
  | error m => simp [Except.map]
  | ok pair => simp [Except.map, eq_comm]

/-- An envelope is told from a token pair by its keys, before its parts are looked at. -/
theorem IsEnvelope.keyedSession {v : Value} {s : Session} {u : Identity} (h : IsEnvelope v s u) :
    KeyedSession v := by
  obtain ⟨ms, w, x, rfl, haccess, hw, -⟩ := h
  exact ⟨ms, rfl, by rw [hw]; exact List.cons_ne_nil w [], haccess⟩

/-- A value is read as a session exactly if it has the form of a session with its user. -/
theorem ofJson_eq_session_iff {v : Value} {s : Session} {u : Identity} :
    ofJson v = .ok (.session s u) ↔ IsEnvelope v s u := by
  by_cases hkeyed : KeyedSession v
  · rw [ofJson_of_keyedSession hkeyed]
    constructor
    · rintro ⟨s', u', heq, h⟩
      obtain ⟨rfl, rfl⟩ := Grant.session.inj heq
      exact h
    · intro h
      exact ⟨s, u, rfl, h⟩
  · rw [ofJson_of_not_keyedSession hkeyed]
    constructor
    · rintro ⟨_, heq, -⟩
      cases heq
    · intro h
      exact absurd h.keyedSession hkeyed

/-- A value is read as a pair of tokens exactly if it has the form of one, and not the keys of a
session. -/
theorem ofJson_eq_tokenPair_iff {v : Value} {pair : TokenPair} :
    ofJson v = .ok (.tokenPair pair) ↔ ¬ KeyedSession v ∧ IsPair v pair := by
  by_cases hkeyed : KeyedSession v
  · rw [ofJson_of_keyedSession hkeyed]
    constructor
    · rintro ⟨_, _, heq, -⟩
      cases heq
    · rintro ⟨hnot, -⟩
      exact absurd hkeyed hnot
  · rw [ofJson_of_not_keyedSession hkeyed]
    constructor
    · rintro ⟨pair', heq, h⟩
      obtain rfl := Grant.tokenPair.inj heq
      exact ⟨hkeyed, h⟩
    · rintro ⟨-, h⟩
      exact ⟨pair, rfl, h⟩

/-- A value is read as a session exactly if it is an object of that form, with a key of a session
and none of an access token, and as a pair of tokens exactly if it is another value and has the form
of a pair. Every other value is refused. -/
theorem ofJson_eq_form (v : Value) :
    (∀ s u, ofJson v = .ok (.session s u) ↔ IsEnvelope v s u) ∧
    (∀ pair, ofJson v = .ok (.tokenPair pair) ↔ ¬ KeyedSession v ∧ IsPair v pair) ∧
    ((∃ m, ofJson v = .error m) ↔ (∀ s u, ¬ IsEnvelope v s u) ∧
      ∀ pair, ¬ (¬ KeyedSession v ∧ IsPair v pair)) := by
  refine ⟨fun _ _ => ofJson_eq_session_iff, fun _ => ofJson_eq_tokenPair_iff, ?_⟩
  simp only [← ofJson_eq_session_iff, ← ofJson_eq_tokenPair_iff]
  constructor
  · rintro ⟨m, hm⟩
    simp [hm]
  · rintro ⟨hnoSession, hnoPair⟩
    cases hread : ofJson v with
    | error m => exact ⟨m, rfl⟩
    | ok g =>
      cases g with
      | session s u => exact absurd hread (hnoSession s u)
      | tokenPair pair => exact absurd hread (hnoPair pair)

end Grant

end IdentityGateway
