import IdentityGateway.Grant
import IdentityGateway.Proofs.Identity

/-!
# Grants shown and read

Clients see every grant as a pair of tokens with a lifetime and a type. What they see is read back
as such a pair, and the pair is shown as before.
-/

namespace IdentityGateway.Grant

open Json (Value Codec Shape)

/-- A grant whose user is as cores have them, and whose lifetime has 64 bits. -/
structure Representable (g : Grant) : Prop where
  user : g.user.Representable
  expiresIn : ∀ pair, g = .tokenPair pair → ∀ n, pair.expiresIn = some n → n < Nat.pow 2 64

/-- What clients are shown of a grant. -/
def shown : Grant → TokenPair
  | .session s u => {
      accessToken := s.token
      refreshToken := some s.token
      expiresIn := some sessionLifetime
      tokenType := some defaultTokenType
      user := u.shown }
  | .tokenPair pair => { pair with
      expiresIn := some (pair.expiresIn.getD defaultExpiresIn)
      tokenType := some (pair.tokenType.getD defaultTokenType)
      user := pair.user.shown }

/-- The members of a shown pair whose lifetime and type are given. -/
def pairView (accessToken : String) (refreshToken : Option String) (expiresIn : Nat)
    (tokenType : String) (u : Identity) : Value :=
  .object [
    ("access_token", .string accessToken),
    ("refresh_token", Value.ofText? refreshToken),
    ("expires_in", Value.integer expiresIn),
    ("token_type", .string tokenType),
    ("user", u.view)]

/-- A grant is shown as what clients are shown of it. -/
theorem view_shown (g : Grant) : (Grant.tokenPair g.shown).view = g.view := by
  cases g with
  | session s u => simp only [view, shown, Identity.view_shown, Value.ofText?, Option.getD_some]
  | tokenPair pair => simp only [view, shown, Identity.view_shown, Option.getD_some]

/-- A value that is a grant is read as it from a text. -/
theorem ofBytes_eq {bs : List UInt8} {v : Value} {g : Grant} (hv : Value.ofUntyped bs = .ok v)
    (hg : ofJson v = .ok g) : ofBytes bs = .ok g := by
  simp only [ofBytes, hv, hg]

/-- A value that is no session and a token pair is read as the pair. -/
theorem ofJson_tokenPair {v : Value} {pair : TokenPair} (hsession : isSession v = false)
    (hpair : TokenPair.shape.ofValue v = .ok pair) : ofJson v = .ok (.tokenPair pair) := by
  simp only [ofJson, hsession, hpair, Bool.false_eq_true, if_false]
  rfl

section

variable {u : Identity} {n levels : Nat}

/-- A shown pair is an object with the user in it, and no text is embedded in either. -/
theorem plain_pairView (hu : u.Representable) (hn : n < Nat.pow 2 64) (accessToken : String)
    (refreshToken : Option String) (tokenType : String) :
    (pairView accessToken refreshToken n tokenType u).Plain (levels + 2) := by
  have hword : Json.IsWord n := ⟨by omega, Int.ofNat_lt.mpr hn⟩
  refine .object (fun m hm => ?_) ?_
  · obtain rfl := Option.some.inj hm
    exact show "access_token" ≠ Json.embeddedKey by decide
  · simp only [List.forall_mem_cons, List.not_mem_nil, false_implies, implies_true, and_true]
    exact ⟨.scalar (.string accessToken), .scalar (Value.scalar_ofText? refreshToken),
      .scalar (.integer hword), .scalar (.string tokenType), Identity.plain_view hu⟩

/-- A shown pair is read back from its value. -/
theorem ofJson_held_pairView (hu : u.Representable) (hn : n < Nat.pow 2 64) (accessToken : String)
    (refreshToken : Option String) (tokenType : String) :
    ofJson (pairView accessToken refreshToken n tokenType u).held =
      .ok (.tokenPair ⟨accessToken, refreshToken, some n, some tokenType, u.shown⟩) := by
  change ofJson (.object
    [("access_token", .string accessToken), ("expires_in", Value.integer n),
      ("refresh_token", (Value.ofText? refreshToken).held), ("token_type", .string tokenType),
      ("user", u.view.held)]) = _
  have hfinish : TokenPair.shape.finish
      ⟨accessToken, some refreshToken, some (some n), some (some tokenType), some u.shown⟩ =
      .ok ⟨accessToken, refreshToken, some n, some tokenType, u.shown⟩ := rfl
  refine ofJson_tokenPair rfl (Shape.Takes.ofValue ?_ hfinish)
  -- the members are held in the order of their keys
  exact
    .cons rfl rfl ((Codec.readsValue_string accessToken).map _) <|
    .cons rfl rfl (((Codec.readsValue_word hn).option nofun).map _) <|
    .cons rfl rfl ((Codec.readsValue_text? refreshToken).map _) <|
    .cons rfl rfl (((Codec.readsValue_string tokenType).option nofun).map _) <|
    .cons rfl rfl ((Identity.readsValue hu).map _) .nil

/-- The text of a shown pair is read back. -/
theorem ofBytes_pairView_text (hu : u.Representable) (hn : n < Nat.pow 2 64) (accessToken : String)
    (refreshToken : Option String) (tokenType : String) :
    ofBytes (pairView accessToken refreshToken n tokenType u).text.toUTF8.toList =
      .ok (.tokenPair ⟨accessToken, refreshToken, some n, some tokenType, u.shown⟩) := by
  have hplain : (pairView accessToken refreshToken n tokenType u).Plain Json.nestingLimit :=
    plain_pairView hu hn accessToken refreshToken tokenType
  rw [Value.toList_toUTF8_text]
  exact ofBytes_eq hplain.ofUntyped_bytes (ofJson_held_pairView hu hn _ _ _)

end

/-- The text shown for a grant is read as what clients are shown of it, for which the same text is
shown again. -/
theorem grant_view_reads_back {g : Grant} (hg : g.Representable) :
    ofBytes g.view.text.toUTF8.toList = .ok (.tokenPair g.shown) ∧
      (Grant.tokenPair g.shown).view.text = g.view.text := by
  refine ⟨?_, by rw [view_shown]⟩
  cases g with
  | session s u => exact ofBytes_pairView_text hg.user (by decide) s.token (some s.token) _
  | tokenPair pair =>
    have hn : pair.expiresIn.getD defaultExpiresIn < Nat.pow 2 64 := by
      cases hgiven : pair.expiresIn with
      | none => decide
      | some n => exact hg.expiresIn pair rfl n hgiven
    exact ofBytes_pairView_text hg.user hn pair.accessToken pair.refreshToken _

/-- A pair with the longest lifetime, for a user created in a leap second. -/
theorem grant_view_reads_back_longest :
    let u : Identity := ⟨.number (-9223372036854775808), "é\n@example.com", some "\"", false,
      ⟨-62167219201, 1000000001⟩, ⟨253402300800, 999999999⟩, some "hash"⟩
    let g : Grant := .tokenPair ⟨"access\\", none, some 18446744073709551615, none, u⟩
    g.Representable ∧ u.createdAt.text = "-0001-12-31T23:59:60+00:00" ∧
      ofBytes g.view.text.toUTF8.toList = .ok (.tokenPair ⟨"access\\", none,
        some 18446744073709551615, some "Bearer",
        { u with
          createdAt := ⟨-62167219201, 1000000000⟩
          updatedAt := ⟨253402300800, 0⟩
          passwordHash := none }⟩) := by
  intro u g
  have hg : g.Representable := by
    refine ⟨⟨⟨by decide, by decide⟩, by decide, by decide⟩, ?_⟩
    rintro pair hpair n hn
    obtain rfl := Grant.tokenPair.inj hpair
    obtain rfl := Option.some.inj hn
    decide
  exact ⟨hg, by decide, (grant_view_reads_back hg).1⟩

end IdentityGateway.Grant
