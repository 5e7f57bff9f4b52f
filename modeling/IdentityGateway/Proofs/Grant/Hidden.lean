import IdentityGateway.Grant
import IdentityGateway.Proofs.Json.Hiding

/-!
# Grants with hidden tokens

Hiding the tokens of a grant before it is read changes nothing but these tokens, also where the
grant is refused. The one exception is a session that is a plain string instead of a record: the
refusal quotes it.
-/

namespace IdentityGateway

open Json (Value Codec Shape Field)

namespace Session

/-- A session without its token. -/
def blanked (s : Session) : Session := { s with token := "" }

/-- A draft of a session without its token. -/
def Draft.blanked (d : Draft) : Draft := { d with token := d.token.map fun _ => "" }

/-- What is hidden at a field of a session. -/
def hideAt (name : String) : Value → Value :=
  if name = "token" then Value.hideString else id

/-- The value of a session whose token is hidden; a string is hidden as a whole. -/
def hidden : Value → Value
  | .string _ => .string ""
  | v => shape.hidden hideAt v

/-- Only the token of a session is blanked. -/
theorem blanks : shape.Blanks Draft.blanked blanked where
  start := rfl
  given := by
    intro field hfield draft
    simp only [shape, List.mem_cons, List.not_mem_nil, or_false] at hfield
    rcases hfield with rfl | rfl
    · exact Option.isSome_map
    · rfl
  finish := by
    intro draft
    obtain ⟨token, expiresAt⟩ := draft
    cases token <;> rfl

/-- The token of a session may be hidden. -/
theorem hides (v : Value) : shape.codec.Hides (shape.hidden hideAt) blanked v := by
  refine blanks.hides ?_ ?_ v
  · simp [shape, Field.of]
  · intro field hfield v
    simp only [shape, List.mem_cons, List.not_mem_nil, or_false] at hfield
    rcases hfield with rfl | rfl
    · exact (Codec.hides_string v).field _ _ _ _ fun _ _ => rfl
    · exact (Codec.hides_id _ v).field _ _ _ _ fun _ _ => rfl

/-- The token of a session that is no plain string may be hidden. -/
theorem hides_of_not_string {v : Value} (hv : ∀ s, v ≠ .string s) :
    shape.codec.Hides hidden blanked v := by
  have hhidden : hidden v = shape.hidden hideAt v := by
    cases v with
    | string s => exact absurd rfl (hv s)
    | _ => rfl
  rw [Codec.Hides, hhidden]
  exact hides v

end Session

namespace TokenPair

/-- A token pair without its tokens. -/
def blanked (pair : TokenPair) : TokenPair :=
  { pair with accessToken := "", refreshToken := pair.refreshToken.map fun _ => "" }

/-- A draft of a token pair without its tokens. -/
def Draft.blanked (d : Draft) : Draft :=
  { d with
    accessToken := d.accessToken.map fun _ => ""
    refreshToken := d.refreshToken.map (Option.map fun _ => "") }

/-- Only the tokens of a pair are blanked. -/
theorem blanks : shape.Blanks Draft.blanked blanked where
  start := rfl
  given := by
    intro field hfield draft
    simp only [shape, List.mem_cons, List.not_mem_nil, or_false] at hfield
    rcases hfield with rfl | rfl | rfl | rfl | rfl
    · exact Option.isSome_map
    · exact Option.isSome_map
    · rfl
    · rfl
    · rfl
  finish := by
    intro draft
    obtain ⟨accessToken, refreshToken, expiresIn, tokenType, user⟩ := draft
    cases accessToken with
    | none => rfl
    | some accessToken =>
      cases user with
      | none => rfl
      | some user => cases refreshToken <;> rfl

end TokenPair

namespace Grant

/-- A grant without its tokens. -/
def blanked : Grant → Grant
  | .session s u => .session s.blanked u
  | .tokenPair pair => .tokenPair pair.blanked

/-- What is hidden at a field of a grant. -/
def hideAt (name : String) : Value → Value :=
  if name = "session" then Session.hidden
  else if name = "access_token" ∨ name = "refresh_token" then Value.hideString
  else id

/-- The value of a grant whose tokens are hidden, be they where they belong or not. -/
def hidden : Value → Value :=
  TokenPair.shape.hidden hideAt

/-- The value is a session that is given as a plain string. -/
def HasPlainSession (v : Value) : Prop :=
  isSession v = true ∧ ∃ members s, v = .object members ∧ ("session", .string s) ∈ members

/-- Whether a pair is read does not depend on what its tokens say. -/
theorem hides_tokenPair (v : Value) :
    TokenPair.shape.codec.Hides hidden TokenPair.blanked v := by
  refine TokenPair.blanks.hides ?_ ?_ v
  · simp [TokenPair.shape, Field.of]
  · intro field hfield v
    simp only [TokenPair.shape, List.mem_cons, List.not_mem_nil, or_false] at hfield
    rcases hfield with rfl | rfl | rfl | rfl | rfl
    · exact (Codec.hides_string v).field _ _ _ _ fun _ _ => rfl
    · exact (Codec.hides_text? v).field _ _ _ _ fun _ _ => rfl
    · exact (Codec.hides_id _ v).field _ _ _ _ fun _ _ => rfl
    · exact (Codec.hides_id _ v).field _ _ _ _ fun _ _ => rfl
    · exact (Codec.hides_id _ v).field _ _ _ _ fun _ _ => rfl

/-- A draft of a session with its user without the token. -/
def EnvelopeDraft.blanked (d : EnvelopeDraft) : EnvelopeDraft :=
  { d with session := d.session.map Session.blanked }

/-- Only the token of a session with its user is blanked. -/
theorem blanks_envelope : envelopeShape.Blanks EnvelopeDraft.blanked blanked where
  start := rfl
  given := by
    intro field hfield draft
    simp only [envelopeShape, List.mem_cons, List.not_mem_nil, or_false] at hfield
    rcases hfield with rfl | rfl
    · exact Option.isSome_map
    · rfl
  finish := by
    intro draft
    obtain ⟨session, user⟩ := draft
    cases session with
    | none => rfl
    | some session => cases user <;> rfl

/-- The token of a session with its user may be hidden, unless the session is a plain string. -/
theorem hides_envelope {members : List (String × Value)}
    (hplain : ∀ s, ("session", Value.string s) ∉ members) :
    envelopeShape.ofValue (hidden (.object members)) =
      (envelopeShape.ofValue (.object members)).map blanked := by
  refine blanks_envelope.ofValue_hidden (v := .object members) ?_ nofun
  rintro _ ⟨⟩ ⟨key, v⟩ hm field hfield
  obtain ⟨hmem, rfl⟩ := Shape.name_of_field? (by simp [envelopeShape, Field.of]) hfield
  simp only [envelopeShape, List.mem_cons, List.not_mem_nil, or_false] at hmem
  rcases hmem with rfl | rfl
  · exact (Session.hides_of_not_string fun s hs => hplain s (hs ▸ hm)).field _ _ _ _ fun _ _ => rfl
  · exact (Codec.hides_id _ v).field _ _ _ _ fun _ _ => rfl

/-- The members of a value are found as before where only their values are hidden. -/
theorem isSome_get?_hidden (v : Value) (key : String) :
    ((hidden v).get? key).isSome = (v.get? key).isSome := by
  cases v with
  | object members =>
    change (((members.map _).find? _).map _).isSome = _
    simp only [Value.get?, List.find?_map, Option.isSome_map, Function.comp_def]
  | _ => rfl

/-- A value is a session with its tokens hidden exactly if it is one. -/
theorem isSession_hidden (v : Value) : isSession (hidden v) = isSession v := by
  simp only [isSession, ← Option.not_isSome, isSome_get?_hidden]

/-- A plain string stays one when it is hidden. -/
theorem hasPlainSession_of_hidden {v w : Value} (h : hidden v = hidden w)
    (hw : HasPlainSession w) : HasPlainSession v := by
  obtain ⟨hsession, members, s, rfl, hmem⟩ := hw
  have hsame : isSession v = true := by rw [← isSession_hidden, h, isSession_hidden, hsession]
  refine ⟨hsame, ?_⟩
  cases v with
  | object ms =>
    have hmembers : ms.map (fun m => (m.1, hideAt m.1 m.2)) =
        members.map fun m => (m.1, hideAt m.1 m.2) := Value.object.inj h
    have hplain : ("session", hideAt "session" (.string s)) ∈
        ms.map fun m => (m.1, hideAt m.1 m.2) := hmembers ▸ List.mem_map_of_mem hmem
    obtain ⟨⟨key, u⟩, hu, hkey⟩ := List.mem_map.mp hplain
    obtain ⟨rfl, hhidden⟩ := Prod.mk.inj hkey
    cases u with
    | string s' => exact ⟨ms, s', rfl, hu⟩
    | _ => cases hhidden
  | _ => cases hsame

/-- A grant is read as before but for its tokens if these are hidden, and refused as before, unless
its session is a plain string. -/
theorem ofJson_hidden {v : Value} (hplain : ¬ HasPlainSession v) :
    ofJson (hidden v) = (ofJson v).map blanked := by
  unfold ofJson
  rw [isSession_hidden]
  by_cases hsession : isSession v = true
  · rw [if_pos hsession, if_pos hsession]
    cases v with
    | object members =>
      exact hides_envelope fun s hs => hplain ⟨hsession, members, s, rfl, hs⟩
    | _ => cases hsession
  · rw [if_neg hsession, if_neg hsession]
    have hpair : TokenPair.shape.ofValue (hidden v) =
        (TokenPair.shape.ofValue v).map TokenPair.blanked := hides_tokenPair v
    rw [hpair]
    cases TokenPair.shape.ofValue v <;> rfl

end Grant

end IdentityGateway
