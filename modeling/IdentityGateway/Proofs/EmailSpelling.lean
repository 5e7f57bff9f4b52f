import IdentityGateway.Core.Memory
import IdentityGateway.Proofs.EmailAddress
import IdentityGateway.Proofs.Host.Case

/-!
# Spellings of an email address

An email address may be spelled with other letters of ASCII in capitals, or between blanks. The
case does not matter for what is accepted, nor for whose address it is. A spelling with blanks at
its margins is never accepted.
-/

namespace IdentityGateway

open Text (beq_toLower isBlank takeWhile_map_toLower toLower_cases)

/-- Another spelling of a text, with blank margins and in other case. -/
structure Respelling (text : String) where
  before : List Char
  letters : List Char
  after : List Char
  blank_before : ∀ c ∈ before, isBlank c = true
  blank_after : ∀ c ∈ after, isBlank c = true
  same : letters.map Char.toLower = text.toList.map Char.toLower

namespace Respelling

/-- The address as a client sends it under the spelling. -/
def text {original : String} (spelling : Respelling original) : String :=
  String.ofList (spelling.before ++ spelling.letters ++ spelling.after)

/-- A spelling has no blank margins. -/
structure Bare {original : String} (spelling : Respelling original) : Prop where
  before : spelling.before = []
  after : spelling.after = []

end Respelling

namespace EmailAddress

/-! ## Domains in lower case -/

/-- The characters of local parts are those in lower case. -/
theorem isLocalChar_toLower (c : Char) : isLocalChar c.toLower = isLocalChar c :=
  toLower_cases (P := fun c d => isLocalChar d = isLocalChar c) (fun _ => rfl) (by decide) c

private theorem isLabel_map_toLower (cs : List Char) :
    isLabel (cs.map Char.toLower) = isLabel cs := by
  have hchar : ∀ c : Char, (c.toLower.isAlphanum || c.toLower == '-') =
      (c.isAlphanum || c == '-') := by
    intro c
    rw [Text.isAlphanum_toLower, beq_toLower rfl]
  have hall : (cs.map Char.toLower).all (fun c => c.isAlphanum || c == '-') =
      cs.all fun c => c.isAlphanum || c == '-' := by
    rw [List.all_map]
    exact congrArg cs.all (funext hchar)
  rw [isLabel, isLabel, hall, List.head?_map, List.getLast?_map, List.length_map]
  cases cs.head? <;> cases cs.getLast? <;>
    simp only [Option.map_some, Option.map_none, Text.isAlphanum_toLower]

private theorem isHostName_map_toLower (cs : List Char) :
    isHostName (cs.map Char.toLower) = isHostName cs := by
  rw [isHostName, isHostName, Text.splitAt_map_toLower rfl, List.all_map]
  exact congrArg (Text.splitAt '.' cs).all (funext isLabel_map_toLower)

/-- The characters of IP addresses are those in lower case. -/
theorem isLiteralChar_toLower (c : Char) : isLiteralChar c.toLower = isLiteralChar c := by
  rw [isLiteralChar, isLiteralChar, Host.IpLiteral.hexDigit?_toLower, beq_toLower rfl,
    beq_toLower rfl]

/-- What stands in brackets at the end is the same in lower case. -/
theorem bracketed?_map_toLower (cs : List Char) :
    bracketed? (cs.map Char.toLower) = (bracketed? cs).map (List.map Char.toLower) := by
  -- neither bracket is a letter, so both are met in lower case where they were met before
  rw [bracketed?, bracketed?, ← List.map_reverse]
  cases cs.reverse with
  | nil => rfl
  | cons c rest =>
    by_cases hclosing : c = ']'
    · have hinside := takeWhile_map_toLower isLiteralChar_toLower rest
      subst hclosing
      have hmark : Char.toLower ']' = ']' := rfl
      simp only [List.map_cons, hmark, hinside, List.length_map, ← List.map_drop]
      cases rest.drop (rest.takeWhile isLiteralChar).length with
      | nil => rfl
      | cons d front =>
        by_cases hopening : d = '['
        · subst hopening
          have hmark : Char.toLower '[' = '[' := rfl
          simp only [List.map_cons, hmark, List.isEmpty_map, ← List.map_reverse]
          split <;> rfl
        · have hother : d.toLower ≠ '[' := hopening ∘ (Text.toLower_eq_iff rfl d).mp
          simp [hopening, hother]
    · have hother : c.toLower ≠ ']' := hclosing ∘ (Text.toLower_eq_iff rfl c).mp
      simp [hclosing, hother]

private theorem isAsciiDomain_map_toLower (cs : List Char) :
    isAsciiDomain (cs.map Char.toLower) = isAsciiDomain cs := by
  rw [isAsciiDomain, isAsciiDomain, isHostName_map_toLower, bracketed?_map_toLower]
  cases bracketed? cs with
  | none => rfl
  | some inside => simp only [Option.map_some, Host.IpLiteral.isAddress_map_toLower]

private theorem isDomain_map_toLower (cs : List Char) :
    isDomain (cs.map Char.toLower) = isDomain cs := by
  rw [isDomain, isDomain, isAsciiDomain_map_toLower, Host.ascii?_map_toLower]

/-! ## Addresses in lower case -/

/-- The parts of an address in lower case are its parts in lower case. -/
theorem parts?_map_toLower (cs : List Char) :
    parts? (cs.map Char.toLower) =
      (parts? cs).map fun parts => (parts.1.map Char.toLower, parts.2.map Char.toLower) := by
  have hlast := takeWhile_map_toLower (p := (· != '@'))
    (fun c => by rw [bne, bne, beq_toLower rfl]) cs.reverse
  simp only [parts?, ← List.map_reverse, hlast, List.length_map, ← List.map_take]
  split <;> rfl

/-- An address is accepted as it stands exactly if it is accepted in lower case. -/
theorem isValid_lowerAscii (address : String) :
    isValid (Text.lowerAscii address) = isValid address := by
  rw [isValid, isValid, Text.lowerAscii, String.toList_ofList, parts?_map_toLower]
  cases parts? address.toList with
  | none => rfl
  | some parts =>
    have hlocal : (parts.1.map Char.toLower).all isLocalChar = parts.1.all isLocalChar := by
      rw [List.all_map]
      exact congrArg parts.1.all (funext isLocalChar_toLower)
    simp only [Option.map_some, List.length_map, List.isEmpty_map, hlocal, isDomain_map_toLower]

end EmailAddress

namespace Respelling

section

variable {address : String} {spelling : Respelling address}

/-- A spelling without blank margins is the same text in lower case. -/
theorem Bare.lowerAscii_eq (h : spelling.Bare) :
    Text.lowerAscii spelling.text = Text.lowerAscii address := by
  rw [Text.lowerAscii, Text.lowerAscii, text, h.before, h.after, List.nil_append, List.append_nil,
    String.toList_ofList, spelling.same]

/-- A spelling without blank margins is accepted if the address is. -/
theorem Bare.isValid (h : spelling.Bare) (hvalid : EmailAddress.isValid address = true) :
    EmailAddress.isValid spelling.text = true := by
  rw [← EmailAddress.isValid_lowerAscii, h.lowerAscii_eq, EmailAddress.isValid_lowerAscii]
  exact hvalid

/-- Only a spelling without blank margins is accepted. -/
theorem bare_of_isValid (h : EmailAddress.isValid spelling.text = true) : spelling.Bare := by
  have htrimmed := EmailAddress.trimmed_of_isValid h
  rw [text, String.toList_ofList] at htrimmed
  constructor
  · cases hbefore : spelling.before with
    | nil => rfl
    | cons c before =>
      have hblank : isBlank c = true := spelling.blank_before c (by simp [hbefore])
      have hfirst : isBlank c = false := htrimmed.first c (by simp [hbefore])
      exact absurd hblank (by simp [hfirst])
  · rcases List.eq_nil_or_concat spelling.after with hnil | ⟨after, c, hafter⟩
    · exact hnil
    · rw [List.concat_eq_append] at hafter
      have hblank : isBlank c = true := spelling.blank_after c (by simp [hafter])
      have hlast : isBlank c = false := htrimmed.last c (by simp [hafter])
      exact absurd hblank (by simp [hlast])

/-- A spelling with blank margins is refused. -/
theorem isValid_eq_false (h : ¬ spelling.Bare) : EmailAddress.isValid spelling.text = false := by
  rw [Bool.eq_false_iff]
  exact fun hvalid => h (bare_of_isValid hvalid)

/-- A spelling without blank margins is the same address to a core in memory. -/
theorem Bare.normalizeEmail_eq (h : spelling.Bare)
    (hvalid : EmailAddress.isValid address = true) :
    Memory.normalizeEmail spelling.text = Memory.normalizeEmail address := by
  rw [Memory.normalizeEmail, Memory.normalizeEmail, EmailAddress.trim_eq_of_isValid hvalid,
    EmailAddress.trim_eq_of_isValid (h.isValid hvalid), h.lowerAscii_eq]

end

end Respelling

end IdentityGateway
