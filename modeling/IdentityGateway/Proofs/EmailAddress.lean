import IdentityGateway.EmailAddress
import IdentityGateway.Proofs.Host.Ascii

/-!
# What is in an email address

An accepted address is split at its last at sign, within the limits of both parts, and trimming
leaves it as it is. There is no blank and no control character in it, except in front of an IP
address in brackets: there the domain may have anything.
-/

namespace IdentityGateway.EmailAddress

open Text (isBlank isStray)

/-- The parts of an address: what is before its last at sign and what is behind it. -/
structure Splits (address : String) (name domain : List Char) : Prop where
  text : address.toList = name ++ '@' :: domain
  last : '@' ∉ domain
  name_pos : 0 < name.length
  name_le : name.length ≤ 64
  domain_pos : 0 < domain.length
  domain_le : domain.length ≤ 255

/-- A text ends with an IP address in brackets, and somewhere before the brackets it has a blank or
a control character. -/
def HidesStray (cs : List Char) : Prop :=
  ∃ front address, cs = front ++ '[' :: (address ++ [']']) ∧
    Host.IpLiteral.isAddress address = true ∧ ∃ c ∈ front, isStray c = true

section

variable {cs name domain piece : List Char} {c : Char} {address : String}

/-! ## Visible characters -/

/-- A character between visible ones of ASCII is not a stray one. -/
theorem isStray_of_between (low high : Char) (hlow : low ≤ c) (hhigh : c ≤ high)
    (hfirst : 0x20 < low.toNat) (hlast : high.toNat < 0x7F) : isStray c = false := by
  have hle : low.toNat ≤ c.toNat := UInt32.le_iff_toNat_le.mp hlow
  have hge : c.toNat ≤ high.toNat := UInt32.le_iff_toNat_le.mp hhigh
  have hascii : c.toNat < 0x80 := by omega
  rw [Bool.eq_false_iff, isStray, ne_eq, Text.isStrayCode_iff_of_ascii hascii]
  omega

/-- Letters and digits are visible. -/
theorem isStray_of_isAlphanum (h : c.isAlphanum = true) : isStray c = false := by
  rcases Bool.or_eq_true_iff.mp h with hletter | hdigit
  · rcases Bool.or_eq_true_iff.mp hletter with hupper | hlower
    · obtain ⟨hfirst, hlast⟩ := of_decide_eq_true hupper
      exact isStray_of_between 'A' 'Z' hfirst hlast (by decide) (by decide)
    · obtain ⟨hfirst, hlast⟩ := Bool.and_eq_true_iff.mp hlower
      exact isStray_of_between 'a' 'z' (of_decide_eq_true hfirst) (of_decide_eq_true hlast)
        (by decide) (by decide)
  · obtain ⟨hfirst, hlast⟩ := Bool.and_eq_true_iff.mp hdigit
    exact isStray_of_between '0' '9' (of_decide_eq_true hfirst) (of_decide_eq_true hlast)
      (by decide) (by decide)

/-- The characters of local parts are visible. -/
theorem isStray_of_isLocalChar (h : isLocalChar c = true) : isStray c = false := by
  have hsigns : ".!#$%&'*+/=?^_|~-".toList.all (fun d => !isStray d) = true := by decide +kernel
  simp only [isLocalChar, Bool.or_eq_true, beq_iff_eq] at h
  rcases h with (((h | h) | h) | h) | h
  · exact isStray_of_isAlphanum h
  · simpa using List.all_eq_true.mp hsigns c (List.contains_iff_mem.mp h)
  all_goals
    rw [isStray, h]
    decide

/-! ## Domains in ASCII -/

/-- A character of a text is a separator or stands in a piece. -/
theorem eq_or_mem_splitAt (separator : Char) (hmem : c ∈ cs) :
    c = separator ∨ ∃ piece ∈ Text.splitAt separator cs, c ∈ piece := by
  induction cs with
  | nil => cases hmem
  | cons d cs ih =>
    rw [Text.splitAt]
    rcases List.mem_cons.mp hmem with rfl | hrest
    · by_cases hc : c = separator
      · exact .inl hc
      · right
        rw [if_neg hc]
        split <;> exact ⟨_, List.mem_cons_self, List.mem_cons_self⟩
    · rcases ih hrest with heq | ⟨piece, hpiece, hc⟩
      · exact .inl heq
      · right
        -- `d` is a separator, or it goes to the front of the first piece behind it
        split
        · exact ⟨piece, List.mem_cons_of_mem _ hpiece, hc⟩
        · split
          · next hnone =>
            rw [hnone] at hpiece
            cases hpiece
          · next first rest hpieces =>
            rw [hpieces] at hpiece
            rcases List.mem_cons.mp hpiece with rfl | hpiece
            · exact ⟨d :: piece, List.mem_cons_self, List.mem_cons_of_mem _ hc⟩
            · exact ⟨piece, List.mem_cons_of_mem _ hpiece, hc⟩

private theorem isStray_of_mem_label (hlabel : isLabel piece = true) (hc : c ∈ piece) :
    isStray c = false := by
  have hall : piece.all (fun c => c.isAlphanum || c == '-') = true := by
    rw [isLabel] at hlabel
    split at hlabel
    · exact (Bool.and_eq_true_iff.mp hlabel).2
    · cases hlabel
  have hchar := List.all_eq_true.mp hall c hc
  rw [Bool.or_eq_true, beq_iff_eq] at hchar
  rcases hchar with halphanum | rfl
  · exact isStray_of_isAlphanum halphanum
  · decide

private theorem isStray_of_isHostName (h : isHostName cs = true) : ∀ c ∈ cs, isStray c = false := by
  intro c hc
  rcases eq_or_mem_splitAt '.' hc with rfl | ⟨piece, hpiece, hc⟩
  · decide
  · exact isStray_of_mem_label (List.all_eq_true.mp h piece hpiece) hc

private theorem isStray_of_hexDigit? (h : (Host.IpLiteral.hexDigit? c).isSome = true) :
    isStray c = false := by
  unfold Host.IpLiteral.hexDigit? at h
  split at h
  · next hrange => exact isStray_of_between _ _ hrange.1 hrange.2 (by decide) (by decide)
  · split at h
    · next hrange => exact isStray_of_between _ _ hrange.1 hrange.2 (by decide) (by decide)
    · split at h
      · next hrange => exact isStray_of_between _ _ hrange.1 hrange.2 (by decide) (by decide)
      · cases h

private theorem isStray_of_isLiteralChar (h : isLiteralChar c = true) : isStray c = false := by
  simp only [isLiteralChar, Bool.or_eq_true, beq_iff_eq] at h
  rcases h with (hdigit | rfl) | rfl
  · exact isStray_of_hexDigit? hdigit
  · decide
  · decide

/-- What stands in brackets at the end of a text. -/
theorem bracketed?_eq_some {inside : List Char} (h : bracketed? cs = some inside) :
    ∃ front, cs = front ++ '[' :: (inside ++ [']']) ∧ ∀ c ∈ inside, isLiteralChar c = true := by
  rw [bracketed?] at h
  split at h
  · next rest hreverse =>
    -- read backwards: the longest run of literal characters, then the opening bracket
    have hdrop : rest.drop (rest.takeWhile isLiteralChar).length =
        rest.dropWhile isLiteralChar := by
      calc rest.drop (rest.takeWhile isLiteralChar).length
        _ = (rest.takeWhile isLiteralChar ++ rest.dropWhile isLiteralChar).drop
              (rest.takeWhile isLiteralChar).length := by rw [List.takeWhile_append_dropWhile]
        _ = rest.dropWhile isLiteralChar := List.drop_left
    dsimp only at h
    rw [hdrop] at h
    split at h
    · next front hfront =>
      obtain ⟨-, h⟩ := Option.ite_none_left_eq_some.mp h
      refine ⟨front.reverse, ?_, ?_⟩
      · have hrest : rest = rest.takeWhile isLiteralChar ++ '[' :: front := by
          rw [← hfront, List.takeWhile_append_dropWhile]
        rw [← List.reverse_reverse cs, hreverse, hrest, ← Option.some.inj h]
        simp
      · intro c hc
        rw [← Option.some.inj h, List.mem_reverse] at hc
        exact List.mem_takeWhile_imp hc
    · cases h
  · cases h

/-- A domain in ASCII is visible, or an IP address in brackets with something stray before it. -/
theorem isStray_of_isAsciiDomain (h : isAsciiDomain cs = true) :
    (∀ c ∈ cs, isStray c = false) ∨ HidesStray cs := by
  rw [isAsciiDomain, Bool.or_eq_true] at h
  rcases h with hname | haddress
  · exact .inl (isStray_of_isHostName hname)
  · split at haddress
    · next inside hinside =>
      obtain ⟨front, rfl, hliteral⟩ := bracketed?_eq_some hinside
      by_cases hstray : ∃ c ∈ front, isStray c = true
      · exact .inr ⟨front, inside, rfl, haddress, hstray⟩
      · left
        intro c hc
        simp only [List.mem_append, List.mem_cons, List.not_mem_nil, or_false] at hc
        rcases hc with hc | rfl | hc | rfl
        · exact Bool.eq_false_iff.mpr fun h => hstray ⟨c, hc, h⟩
        · decide
        · exact isStray_of_isLiteralChar (hliteral c hc)
        · decide
    · cases haddress

/-- A domain in ASCII that has something stray ends with a bracket. -/
theorem getLast?_of_isAsciiDomain (h : isAsciiDomain cs = true)
    (hstray : ∃ c ∈ cs, isStray c = true) : cs.getLast? = some ']' := by
  obtain ⟨c, hc, hstray⟩ := hstray
  rcases isStray_of_isAsciiDomain h with hvisible | ⟨front, inside, rfl, -, -⟩
  · rw [hvisible c hc] at hstray
    cases hstray
  · rw [← List.cons_append, ← List.append_assoc, List.getLast?_concat]

/-! ## Domains -/

/-- Nothing is stray in a domain, unless it ends with an IP address in brackets once it is in
ASCII. -/
theorem isStray_of_isDomain (h : isDomain cs = true) :
    (∀ c ∈ cs, isStray c = false) ∨ HidesStray cs ∨
      ∃ ascii, Host.ascii? cs = some ascii ∧ HidesStray ascii := by
  rw [isDomain, Bool.or_eq_true] at h
  rcases h with hown | hwritten
  · exact (isStray_of_isAsciiDomain hown).imp_right .inl
  · split at hwritten
    · next ascii hascii =>
      rcases isStray_of_isAsciiDomain hwritten with hvisible | hhides
      · left
        intro c hc
        rw [Bool.eq_false_iff]
        intro hstray
        obtain ⟨d, hd, hstray⟩ := Host.exists_stray_of_ascii? hstray hc hascii
        rw [hvisible d hd] at hstray
        cases hstray
      · exact .inr (.inr ⟨ascii, hascii, hhides⟩)
    · cases hwritten

/-- The last character of a domain is visible. -/
theorem isStray_of_getLast? (h : isDomain cs = true) : ∀ c ∈ cs.getLast?, isStray c = false := by
  intro c hlast
  rw [Bool.eq_false_iff]
  intro hstray
  have hmem : c ∈ cs := List.mem_of_mem_getLast? hlast
  rw [isDomain, Bool.or_eq_true] at h
  rcases h with hown | hwritten
  · rw [getLast?_of_isAsciiDomain hown ⟨c, hmem, hstray⟩] at hlast
    rw [← Option.some.inj hlast] at hstray
    exact absurd hstray (by decide)
  · split at hwritten
    · next ascii hascii =>
      -- something stray is left in ASCII, so the name ends with a bracket there; but its last label
      -- ends with what is stray, and is not written with a bracket at the end
      obtain ⟨start, rfl⟩ := List.getLast?_eq_some_iff.mp hlast
      have hbracket : ascii.getLast? = some ']' :=
        getLast?_of_isAsciiDomain hwritten (Host.exists_stray_of_ascii? hstray hmem hascii)
      exact Host.getLast?_of_ascii? hstray hascii ']' hbracket rfl
    · cases hwritten

private theorem isDomain_nil : isDomain [] = false := by decide +kernel

/-! ## Addresses -/

/-- An address has the parts before and after its last at sign. -/
theorem parts?_eq_some_iff :
    parts? cs = some (name, domain) ↔ cs = name ++ '@' :: domain ∧ '@' ∉ domain := by
  constructor
  · intro h
    by_cases hat : '@' ∈ cs
    · obtain ⟨front, tail, rfl, htail⟩ := Text.exists_last hat
      rw [parts?, Text.lastPiece_append htail, Text.take_before_last] at h
      obtain ⟨-, h⟩ := Option.ite_none_left_eq_some.mp h
      cases h
      exact ⟨rfl, htail⟩
    · rw [parts?, Text.lastPiece_of_not_mem hat, if_pos rfl] at h
      cases h
  · rintro ⟨rfl, hat⟩
    have hlength : domain.length ≠ (name ++ '@' :: domain).length := by
      rw [List.length_append, List.length_cons]
      omega
    rw [parts?, Text.lastPiece_append hat, Text.take_before_last, if_neg hlength]

/-- An address is accepted exactly if it has a local part and a domain that are. -/
theorem isValid_iff : isValid address = true ↔
    ∃ name domain, Splits address name domain ∧ (∀ c ∈ name, isLocalChar c = true) ∧
      isDomain domain = true := by
  rw [isValid]
  constructor
  · intro h
    split at h
    · cases h
    · next name domain hparts =>
      obtain ⟨htext, hlast⟩ := parts?_eq_some_iff.mp hparts
      simp only [Bool.and_eq_true, decide_eq_true_eq, Bool.not_eq_true',
        List.isEmpty_eq_false_iff, List.all_eq_true] at h
      obtain ⟨⟨⟨⟨hname, hlength⟩, hfull⟩, hlocal⟩, hdomain⟩ := h
      have hnonempty : domain ≠ [] := by
        rintro rfl
        rw [isDomain_nil] at hdomain
        cases hdomain
      exact ⟨name, domain, ⟨htext, hlast, List.length_pos_iff.mpr hfull, hname,
        List.length_pos_iff.mpr hnonempty, hlength⟩, hlocal, hdomain⟩
  · rintro ⟨name, domain, hsplits, hlocal, hdomain⟩
    have hfull : name.isEmpty = false :=
      List.isEmpty_eq_false_iff.mpr (List.length_pos_iff.mp hsplits.name_pos)
    rw [parts?_eq_some_iff.mpr ⟨hsplits.text, hsplits.last⟩]
    simp [localLimit, domainLimit, hsplits.name_le, hsplits.domain_le, hfull, hdomain,
      List.all_eq_true.mpr hlocal]

/-- An accepted address has no blank margins. -/
theorem trimmed_of_isValid (h : isValid address = true) : Text.Trimmed address.toList := by
  obtain ⟨name, domain, hsplits, hlocal, hdomain⟩ := isValid_iff.mp h
  have hvisible : ∀ {c : Char}, isStray c = false → isBlank c = false := by
    intro c hc
    rw [Bool.eq_false_iff]
    intro hblank
    rw [Text.isStray_of_isBlank hblank] at hc
    cases hc
  constructor
  · intro c hc
    rw [hsplits.text, List.head?_append_of_ne_nil _ (List.length_pos_iff.mp hsplits.name_pos)] at hc
    exact hvisible (isStray_of_isLocalChar (hlocal c (List.mem_of_mem_head? hc)))
  · intro c hc
    rw [hsplits.text, ← List.singleton_append, ← List.append_assoc,
      List.getLast?_append_of_ne_nil _ (List.length_pos_iff.mp hsplits.domain_pos)] at hc
    exact hvisible (isStray_of_getLast? hdomain c hc)

/-- An accepted address is left as it is when it is trimmed. -/
theorem trim_eq_of_isValid (h : isValid address = true) : Text.trim address = address := by
  rw [Text.trim, (trimmed_of_isValid h).trimChars_eq, String.ofList_toList]

/-- An accepted address has nothing stray in it, unless its domain ends with an IP address in
brackets once it is in ASCII. -/
theorem exists_splits_of_isValid (h : isValid address = true) :
    ∃ name domain, Splits address name domain ∧ (∀ c ∈ name, isStray c = false) ∧
      ((∀ c ∈ domain, isStray c = false) ∨ HidesStray domain ∨
        ∃ ascii, Host.ascii? domain = some ascii ∧ HidesStray ascii) := by
  obtain ⟨name, domain, hsplits, hlocal, hdomain⟩ := isValid_iff.mp h
  exact ⟨name, domain, hsplits, fun c hc => isStray_of_isLocalChar (hlocal c hc),
    isStray_of_isDomain hdomain⟩

end

end IdentityGateway.EmailAddress
