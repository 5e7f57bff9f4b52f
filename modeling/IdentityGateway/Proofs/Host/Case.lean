import IdentityGateway.Host.Ascii
import IdentityGateway.Host.IpLiteral
import IdentityGateway.Proofs.Text.Case

/-!
# Hosts in lower case

An IP address is one in lower case, too, and a name is written in ASCII as it is in lower case.
-/

namespace IdentityGateway.Host

open Text (beq_toLower digit? digit?_toLower takeWhile_map_toLower toLower_cases toLower_eq_iff)

namespace IpLiteral

/-- A hexadecimal digit has the same value in lower case. -/
theorem hexDigit?_toLower (c : Char) : hexDigit? c.toLower = hexDigit? c :=
  toLower_cases (P := fun c d => hexDigit? d = hexDigit? c) (fun _ => rfl) (by decide) c

/-- Digits have the same value in lower case. -/
theorem valueIn?_map_toLower (base : Nat) (digits : List Char) :
    valueIn? base (digits.map Char.toLower) = valueIn? base digits := by
  simp only [valueIn?, List.foldlM_map, hexDigit?_toLower]

/-- Decimal digits have the same value in lower case. -/
theorem digits?_map_toLower (value : Nat) (digits : List Char) :
    Text.digits? value (digits.map Char.toLower) = Text.digits? value digits := by
  induction digits generalizing value with
  | nil => rfl
  | cons c digits ih => simp only [List.map_cons, Text.digits?, digit?_toLower, ih]

/-- What was read in lower case, with what is left. -/
def lowerRest {α : Type} (r : α × List Char) : α × List Char :=
  (r.1, r.2.map Char.toLower)

/-- A number below 256 is read the same in lower case. -/
theorem octet?_map_toLower (cs : List Char) :
    octet? (cs.map Char.toLower) = (octet? cs).map lowerRest := by
  have hdigits := takeWhile_map_toLower (p := fun c => (digit? c).isSome)
    (fun c => by rw [digit?_toLower]) cs
  have hhead : ∀ digits : List Char, ((digits.map Char.toLower).head? == some '0') =
      (digits.head? == some '0') := by
    intro digits
    cases digits with
    | nil => rfl
    | cons c digits => exact beq_toLower rfl c
  simp only [octet?, hdigits, hhead, List.isEmpty_map, List.length_map, digits?_map_toLower,
    ← List.map_drop]
  split
  · rfl
  · split
    · rfl
    · split
      · split <;> rfl
      · rfl

/-- What comes behind a mark is the same in lower case. -/
theorem afterChar?_map_toLower (mark : Char) (hmark : mark.isAlpha = false) (cs : List Char) :
    afterChar? mark (cs.map Char.toLower) = (afterChar? mark cs).map (List.map Char.toLower) := by
  cases cs with
  | nil => rfl
  | cons c cs =>
    simp only [List.map_cons, afterChar?, toLower_eq_iff hmark]
    split <;> rfl

/-- An address of four numbers is read the same in lower case. -/
theorem four?_map_toLower (cs : List Char) :
    four? (cs.map Char.toLower) = (four? cs).map lowerRest := by
  have hpoint := afterChar?_map_toLower '.' rfl
  simp [four?, octet?_map_toLower, hpoint, lowerRest, Option.bind_map, Option.map_bind,
    Function.comp_def]

/-- A group is read the same in lower case. -/
theorem group?_map_toLower (cs : List Char) :
    group? (cs.map Char.toLower) = (group? cs).map lowerRest := by
  have hdigits := takeWhile_map_toLower (p := fun c => (hexDigit? c).isSome)
    (fun c => by rw [hexDigit?_toLower]) cs
  simp only [group?, hdigits, List.isEmpty_map, List.length_map,
    valueIn?_map_toLower, ← List.map_drop]
  split
  · rfl
  · rw [Option.map_map]
    rfl

/-- What comes behind a colon, if there has to be one, is the same in lower case. -/
theorem afterSeparator?_map_toLower (index : Nat) (cs : List Char) :
    afterSeparator? index (cs.map Char.toLower) =
      (afterSeparator? index cs).map (List.map Char.toLower) := by
  unfold afterSeparator?
  split
  · rfl
  · exact afterChar?_map_toLower ':' rfl cs

/-- Groups are read the same in lower case. -/
theorem groups_map_toLower (index room : Nat) (cs : List Char) :
    groups index room (cs.map Char.toLower) =
      { groups index room cs with rest := (groups index room cs).rest.map Char.toLower } := by
  induction room generalizing index cs with
  | zero => rfl
  | succ room ih =>
    have hfour : ((afterSeparator? index (cs.map Char.toLower)).bind four?) =
        ((afterSeparator? index cs).bind four?).map lowerRest := by
      rw [afterSeparator?_map_toLower, Option.bind_map, Option.map_bind]
      exact congrArg _ (funext four?_map_toLower)
    have hgroup : ((afterSeparator? index (cs.map Char.toLower)).bind group?) =
        ((afterSeparator? index cs).bind group?).map lowerRest := by
      rw [afterSeparator?_map_toLower, Option.bind_map, Option.map_bind]
      exact congrArg _ (funext group?_map_toLower)
    have hread : (if 0 < room then (afterSeparator? index (cs.map Char.toLower)).bind four?
          else none) =
        (if 0 < room then (afterSeparator? index cs).bind four? else none).map lowerRest := by
      rw [hfour]
      split <;> rfl
    rw [groups, groups, hread, hgroup]
    cases (if 0 < room then (afterSeparator? index cs).bind four? else none) with
    | some r => rfl
    | none =>
      cases (afterSeparator? index cs).bind group? with
      | none => rfl
      | some r => simp only [Option.map_none, Option.map_some, lowerRest, ih]

/-- An address of eight groups is read the same in lower case. -/
theorem eight?_map_toLower (cs : List Char) :
    eight? (cs.map Char.toLower) = (eight? cs).map lowerRest := by
  have hcolon := afterChar?_map_toLower ':' rfl
  rw [eight?, eight?, groups_map_toLower]
  dsimp only
  split
  · rfl
  · split
    · rfl
    · simp [hcolon, groups_map_toLower, lowerRest, Option.bind_map, Option.map_bind,
        Function.comp_def]

/-- An IP address is one in lower case. -/
theorem isAddress_map_toLower (cs : List Char) :
    isAddress (cs.map Char.toLower) = isAddress cs := by
  rw [isAddress, isAddress, four?_map_toLower, eight?_map_toLower]
  cases four? cs with
  | some r => simp [lowerRest]
  | none =>
    cases eight? cs with
    | some r => simp [lowerRest]
    | none => rfl

end IpLiteral

/-! ## Names -/

/-- A text is mapped the same in lower case. -/
theorem mapped?_map_toLower (cs : List Char) :
    mapped? ((cs.map Char.toLower).map Char.toNat) = mapped? (cs.map Char.toNat) := by
  have hcapital : ∀ n < 26,
      Unicode.treatment (Text.capital n).toNat = .replaced [(Text.capital n).toLower.toNat] ∧
        Unicode.treatment (Text.capital n).toLower.toNat = .valid := by decide
  have hfirst : ∀ c : Char, ∀ rest,
      mapped? (c.toLower.toNat :: rest) = mapped? (c.toNat :: rest) := by
    refine toLower_cases (P := fun c d => ∀ rest, mapped? (d.toNat :: rest) =
      mapped? (c.toNat :: rest)) (fun _ _ => rfl) ?_
    intro n hn rest
    obtain ⟨hreplaced, hvalid⟩ := hcapital n hn
    rw [mapped?, mapped?, hreplaced, hvalid]
    rfl
  induction cs with
  | nil => rfl
  | cons c cs ih =>
    rw [List.map_cons, List.map_cons, List.map_cons, hfirst, mapped?, mapped?, ih]

/-- A name is written in ASCII as it is in lower case. -/
theorem ascii?_map_toLower (cs : List Char) : ascii? (cs.map Char.toLower) = ascii? cs := by
  rw [ascii?, ascii?, mapped?_map_toLower]

end IdentityGateway.Host
