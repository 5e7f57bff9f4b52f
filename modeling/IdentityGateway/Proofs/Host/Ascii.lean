import IdentityGateway.Host.Ascii
import IdentityGateway.Proofs.Host.Punycode
import IdentityGateway.Proofs.Text.Blank
import IdentityGateway.Proofs.Unicode.Normal

/-!
# Stray characters of host names

A blank or control character of a name does not get lost when the name is written in ASCII: it is
refused, or there is one in what is written. A name that ends in one is not written with a bracket
at the end.
-/

namespace IdentityGateway.Host

open Text (isStray isStrayCode)
open Unicode (Isolated composed composed_append_cons treatment)

/-- A stray code point of ASCII. -/
structure Stray (n : Nat) : Prop where
  ascii : n < 0x80
  stray : isStrayCode n = true

section

variable {α β : Type} {n m : Nat} {before after text label read written : List Nat}

/-- A valid code point is that of its character. -/
theorem toNat_ofNat (hvalid : n.isValidChar) : (Char.ofNat n).toNat = n := by
  rw [Char.ofNat, dif_pos hvalid]
  rfl

namespace Stray

/-- Stray code points of ASCII are the space, those before it, and the last one. -/
theorem eq_or_le (hn : Stray n) : n ≤ 0x20 ∨ n = 0x7F :=
  (Text.isStrayCode_iff_of_ascii hn.ascii).mp hn.stray

/-- A stray code point does not combine with others. -/
theorem isolated (hn : Stray n) : Isolated n := by
  have hcases := hn.eq_or_le
  constructor
  · exact Nat.lt_trans hn.ascii (by decide)
  · simp only [Unicode.isBase, Bool.or_eq_false_iff, Bool.and_eq_false_iff, decide_eq_false_iff_not]
    omega

/-- A stray code point is no digit of an encoded label. -/
theorem not_isDigit (hn : Stray n) : ¬ Punycode.IsDigit n := by
  have hcases := hn.eq_or_le
  have hletter : ¬ (97 ≤ n ∧ n ≤ 122) := by omega
  have hdecimal : ¬ (48 ≤ n ∧ n ≤ 57) := by omega
  simp [Punycode.IsDigit, Punycode.digitValue?, hletter, hdecimal]

/-- A stray code point is no visible one. -/
theorem ne (hn : Stray n) (hm : 0x20 < m) (hm' : m < 0x7F) : n ≠ m := by
  have hcases := hn.eq_or_le
  omega

private theorem isStray_ofNat (hn : Stray n) : isStray (Char.ofNat n) = true := by
  have hvalid : n.isValidChar := .inl (Nat.lt_trans hn.ascii (by decide))
  rw [isStray, toNat_ofNat hvalid, hn.stray]

end Stray

/-! ## Mapping -/

/-- A stray code point makes a name unusable, or becomes one of ASCII. -/
theorem mapped?_cons_stray (hn : isStrayCode n = true) :
    (∀ after, mapped? (n :: after) = none) ∨
      ∃ m, Stray m ∧ ∀ after, mapped? (n :: after) = (mapped? after).map (m :: ·) := by
  by_cases hascii : n < 0x80
  · have hn' : Stray n := ⟨hascii, hn⟩
    have hcases := hn'.eq_or_le
    have hcapital : ¬ (0x41 ≤ n ∧ n ≤ 0x5A) := by omega
    have hvalid : treatment n = .valid := by
      rw [treatment, if_pos hascii, Unicode.asciiTreatment, if_neg hcapital]
    exact .inr ⟨n, hn', fun after => by rw [mapped?, hvalid]⟩
  · by_cases hcontrol : n < 0xA0
    · have hdisallowed : treatment n = .disallowed := by
        rw [treatment, if_neg hascii, if_pos hcontrol]
      exact .inl fun after => by rw [mapped?, hdisallowed]
    -- beyond the control characters only blanks are left
    · have hblank : Text.isBlankCode n = true := by
        simp only [isStrayCode, Bool.or_eq_true, Bool.and_eq_true, decide_eq_true_eq] at hn
        rcases hn with (hblank | hlow) | hhigh
        · exact hblank
        · omega
        · omega
      have htreatment : treatment n = Unicode.blankTreatment n := by
        rw [treatment, if_neg hascii, if_neg hcontrol, if_pos hblank]
      rw [Unicode.blankTreatment] at htreatment
      split at htreatment
      · exact .inl fun after => by rw [mapped?, htreatment]
      · exact .inr ⟨0x20, ⟨by decide, by decide⟩, fun after => by rw [mapped?, htreatment]; rfl⟩

private theorem mapped?_append (before after : List Nat) :
    mapped? (before ++ after) =
      (mapped? before).bind fun front => (mapped? after).map (front ++ ·) := by
  induction before with
  | nil => simp [mapped?]
  | cons n before ih =>
    rw [List.cons_append, mapped?, mapped?, ih]
    cases treatment n <;> cases mapped? before <;> cases mapped? after <;> simp

/-- A stray code point of a text that is mapped becomes one of ASCII. -/
theorem exists_stray_of_mapped? (hn : isStrayCode n = true)
    (h : mapped? (before ++ n :: after) = some text) :
    ∃ front m back, Stray m ∧ text = front ++ m :: back ∧ (after = [] → back = []) := by
  rw [mapped?_append] at h
  obtain ⟨front, -, h⟩ := Option.bind_eq_some_iff.mp h
  rcases mapped?_cons_stray hn with hnone | ⟨m, hm, hsome⟩
  · rw [hnone] at h
    cases h
  · rw [hsome, Option.map_map] at h
    obtain ⟨back, hback, rfl⟩ := Option.map_eq_some_iff.mp h
    refine ⟨front, m, back, hm, rfl, ?_⟩
    rintro rfl
    exact (Option.some.inj hback).symm

/-! ## Labels -/

private theorem exists_labels (text : List Nat) : ∃ label rest, labels text = label :: rest := by
  cases text with
  | nil => exact ⟨[], [], rfl⟩
  | cons n text =>
    rw [labels]
    split
    · exact ⟨_, _, rfl⟩
    · split <;> exact ⟨_, _, rfl⟩

/-- A code point that is no point stands in a label, and in the last one if it is the last. -/
theorem labels_append_cons (hn : n ≠ 46) (before after : List Nat) :
    ∃ init front back rest, labels (before ++ n :: after) = init ++ (front ++ n :: back) :: rest ∧
      (after = [] → back = [] ∧ rest = []) := by
  induction before with
  | nil =>
    obtain ⟨label, rest, hlabels⟩ := exists_labels after
    refine ⟨[], [], label, rest, ?_, ?_⟩
    · simp [labels, if_neg hn, hlabels]
    · rintro rfl
      cases hlabels
      exact ⟨rfl, rfl⟩
  | cons p before ih =>
    obtain ⟨init, front, back, rest, hlabels, hlast⟩ := ih
    rw [List.cons_append, labels, hlabels]
    split
    · exact ⟨[] :: init, front, back, rest, rfl, hlast⟩
    · cases init with
      | nil => exact ⟨[], p :: front, back, rest, rfl, hlast⟩
      | cons label init => exact ⟨(p :: label) :: init, front, back, rest, rfl, hlast⟩

/-- What an encoded label stands for is what it is decoded to, and is not ASCII. -/
theorem decodedLabel?_eq_some (h : decodedLabel? label = some read) :
    isAscii read = false ∧ Punycode.decode? (label.drop encodedMark.length) = some read := by
  unfold decodedLabel? at h
  dsimp only at h
  split at h
  · obtain ⟨text, hdecoded, h⟩ := Option.bind_eq_some_iff.mp h
    obtain ⟨hchecked, hread⟩ := Option.ite_none_right_eq_some.mp h
    simp only [Bool.and_eq_true, Bool.not_eq_true'] at hchecked
    rw [← Option.some.inj hread]
    exact ⟨hchecked.1.1.2, hdecoded⟩
  · cases h

/-- A stray code point of a label is kept when the label is read. -/
theorem mem_of_readLabel? (hn : Stray n) (hmem : n ∈ label) (h : readLabel? label = some read) :
    n ∈ read := by
  rw [readLabel?] at h
  split at h
  · next hmark =>
    obtain ⟨tail, rfl⟩ := List.isPrefixOf_iff_prefix.mp hmark
    have hvisible : n ∉ encodedMark := by
      intro hmem
      simp only [encodedMark, List.mem_cons, List.not_mem_nil, or_false] at hmem
      have hcases := hn.eq_or_le
      omega
    -- so `n` stands behind the mark, where it is no digit and has to be a basic code point
    have htail : n ∈ tail := (List.mem_append.mp hmem).resolve_left hvisible
    obtain ⟨-, hdecoded⟩ := decodedLabel?_eq_some h
    rw [List.drop_left] at hdecoded
    exact Punycode.mem_of_decode? hn.not_isDigit (hn.ne (by decide) (by decide)) htail hdecoded
  · rw [← Option.some.inj h]
    exact hmem

/-- A stray code point of a label as it is read is kept in ASCII. -/
theorem mem_of_asciiLabel? (hn : Stray n) (hmem : n ∈ read)
    (h : asciiLabel? read = some written) : n ∈ written := by
  rw [asciiLabel?] at h
  split at h
  · rw [← Option.some.inj h]
    exact hmem
  · obtain ⟨-, hwritten⟩ := Option.ite_none_right_eq_some.mp h
    rw [← Option.some.inj hwritten]
    exact List.mem_append_right _ (Punycode.mem_encode hn.ascii hmem)

/-- A label that is encoded ends with a digit or a hyphen. -/
theorem getLast?_encoded (label : List Nat) :
    ∀ c ∈ (encodedMark ++ Punycode.encode label).getLast?, Punycode.IsDigit c ∨ c = 45 := by
  intro c hc
  rw [Option.mem_def, List.getLast?_append, Option.or_eq_some_iff] at hc
  rcases hc with hencoded | ⟨-, hmark⟩
  · exact Punycode.getLast?_encode label c hencoded
  · exact .inr (Option.some.inj hmark).symm

/-- A label that ends with a stray code point is not written with a bracket at the end. -/
theorem getLast?_of_asciiLabel? (hn : Stray n) (hread : readLabel? (before ++ [n]) = some read)
    (h : asciiLabel? read = some written) : ∀ c ∈ written.getLast?, c ≠ 93 := by
  have hencoded : ∀ label c, c ∈ (encodedMark ++ Punycode.encode label).getLast? → c ≠ 93 := by
    intro label c hc
    rcases getLast?_encoded label c hc with hdigit | rfl
    · rintro rfl
      cases hdigit
    · decide
  rw [asciiLabel?] at h
  split at h
  · next hascii =>
    rw [← Option.some.inj h]
    rw [readLabel?] at hread
    split at hread
    -- what an encoded label stands for is not ASCII
    · obtain ⟨hbeyond, -⟩ := decodedLabel?_eq_some hread
      simp [hascii] at hbeyond
    · rw [← Option.some.inj hread]
      intro c hc
      rw [List.getLast?_concat, Option.mem_some_iff] at hc
      exact hc ▸ hn.ne (by decide) (by decide)
  · obtain ⟨-, hwritten⟩ := Option.ite_none_right_eq_some.mp h
    rw [← Option.some.inj hwritten]
    exact hencoded read

/-! ## Lists of labels -/

/-- Where every element has an image, each stands at the place of its element. -/
theorem mapM_append_cons {f : α → Option β} {a : α} {front back : List α} {images : List β}
    (h : (front ++ a :: back).mapM f = some images) :
    ∃ front' b back', f a = some b ∧ back.mapM f = some back' ∧
      images = front' ++ b :: back' := by
  rw [List.mapM_append] at h
  obtain ⟨front', -, h⟩ := Option.bind_eq_some_iff.mp h
  obtain ⟨tail, htail, h⟩ := Option.bind_eq_some_iff.mp h
  rw [List.mapM_cons] at htail
  obtain ⟨b, hb, htail⟩ := Option.bind_eq_some_iff.mp htail
  obtain ⟨back', hback, htail⟩ := Option.bind_eq_some_iff.mp htail
  refine ⟨front', b, back', hb, hback, ?_⟩
  rw [← Option.some.inj h, ← Option.some.inj htail]

/-- A piece stands among the pieces that are joined, and at the end if it is the last. -/
theorem exists_intercalate (separator piece : List α) (front back : List (List α)) :
    ∃ start tail, List.intercalate separator (front ++ piece :: back) = start ++ piece ++ tail ∧
      (back = [] → tail = []) := by
  induction front with
  | nil =>
    cases back with
    | nil => exact ⟨[], [], by simp, fun _ => rfl⟩
    | cons next back =>
      refine ⟨[], separator ++ List.intercalate separator (next :: back), ?_, by simp⟩
      rw [List.nil_append, List.intercalate_cons_cons, List.append_assoc, List.nil_append]
  | cons first front ih =>
    obtain ⟨start, tail, hjoined, hlast⟩ := ih
    refine ⟨first ++ separator ++ start, tail, ?_, hlast⟩
    have hcons : List.intercalate separator (first :: (front ++ piece :: back)) =
        first ++ separator ++ List.intercalate separator (front ++ piece :: back) := by
      cases front <;> exact List.intercalate_cons_cons
    rw [List.cons_append, hcons, hjoined]
    simp only [List.append_assoc]

/-! ## Names -/

/-- A stray character of a name that is written in ASCII stands in a label, and in the last one if
it is the last of the name. It leaves one in what is written of the label. -/
theorem exists_label_of_ascii? {start ending ascii : List Char} {c : Char} (hc : isStray c = true)
    (h : ascii? (start ++ c :: ending) = some ascii) :
    ∃ m front back read written, Stray m ∧ readLabel? (front ++ m :: back) = some read ∧
      asciiLabel? read = some written ∧ m ∈ written ∧
      (∃ init rest, ascii = init ++ written.map Char.ofNat ++ rest ∧ (ending = [] → rest = [])) ∧
      (ending = [] → back = []) := by
  rw [ascii?, List.map_append, List.map_cons] at h
  obtain ⟨text, hmapped, h⟩ := Option.bind_eq_some_iff.mp h
  obtain ⟨read, hread, h⟩ := Option.bind_eq_some_iff.mp h
  obtain ⟨-, h⟩ := Option.ite_none_right_eq_some.mp h
  obtain ⟨encoded, hencoded, hascii⟩ := Option.bind_eq_some_iff.mp h
  -- `m` stays what it is from here on, and its place is followed from stage to stage
  obtain ⟨front, m, back, hm, rfl, hback⟩ := exists_stray_of_mapped? hc hmapped
  rw [composed_append_cons hm.isolated] at hread
  obtain ⟨init, first, last, rest, hlabels, hlast⟩ :=
    labels_append_cons (hm.ne (by decide) (by decide)) (composed front) (composed back)
  rw [hlabels] at hread
  obtain ⟨init', label, rest', hlabel, hrest', rfl⟩ := mapM_append_cons hread
  obtain ⟨init'', written, rest'', hwritten, hrest'', rfl⟩ := mapM_append_cons hencoded
  obtain ⟨start', tail, hjoined, htail⟩ := exists_intercalate ['.'] (written.map Char.ofNat)
    (init''.map fun label => label.map Char.ofNat) (rest''.map fun label => label.map Char.ofNat)
  have hend : ending = [] → last = [] ∧ rest = [] := by
    rintro rfl
    rw [hback rfl] at hlast
    exact hlast rfl
  have hmem : m ∈ written :=
    mem_of_asciiLabel? hm (mem_of_readLabel? hm (by simp) hlabel) hwritten
  refine ⟨m, first, last, label, written, hm, hlabel, hwritten, hmem, ⟨start', tail, ?_, ?_⟩, ?_⟩
  · rw [← Option.some.inj hascii, List.map_append, List.map_cons, hjoined]
  · intro hnil
    rw [(hend hnil).2] at hrest'
    cases hrest'
    cases hrest''
    exact htail rfl
  · exact fun hnil => (hend hnil).1

/-- A stray character of a name that is written in ASCII leaves one there. -/
theorem exists_stray_of_ascii? {name ascii : List Char} {c : Char} (hc : isStray c = true)
    (hmem : c ∈ name) (h : ascii? name = some ascii) : ∃ d ∈ ascii, isStray d = true := by
  obtain ⟨start, ending, rfl⟩ := List.append_of_mem hmem
  obtain ⟨m, -, -, -, written, hm, -, -, hmem, ⟨init, rest, rfl, -⟩, -⟩ :=
    exists_label_of_ascii? hc h
  have hchar : Char.ofNat m ∈ written.map Char.ofNat := List.mem_map_of_mem hmem
  exact ⟨Char.ofNat m, by simp [hchar], hm.isStray_ofNat⟩

private theorem eq_of_ofNat_eq (h : Char.ofNat n = ']') : n = 93 := by
  by_cases hvalid : n.isValidChar
  · rw [← toNat_ofNat hvalid, h]
    rfl
  · rw [Char.ofNat, dif_neg hvalid] at h
    exact absurd h (by decide)

/-- A name that ends with a stray character is not written with a bracket at the end. -/
theorem getLast?_of_ascii? {start ascii : List Char} {c : Char} (hc : isStray c = true)
    (h : ascii? (start ++ [c]) = some ascii) : ∀ d ∈ ascii.getLast?, d ≠ ']' := by
  obtain ⟨m, front, back, read, written, hm, hread, hwritten, hmem, ⟨init, rest, rfl, hrest⟩,
    hback⟩ := exists_label_of_ascii? hc h
  rw [hback rfl] at hread
  obtain ⟨label, last, hwhole⟩ :=
    (List.eq_nil_or_concat written).resolve_left (List.ne_nil_of_mem hmem)
  rw [List.concat_eq_append] at hwhole
  subst hwhole
  have hlast : last ≠ 93 := getLast?_of_asciiLabel? hm hread hwritten last (by simp)
  intro d hd
  rw [hrest rfl] at hd
  have hd : Char.ofNat last = d := by simpa using hd
  rintro rfl
  exact hlast (eq_of_ofNat_eq hd)

end

end IdentityGateway.Host
