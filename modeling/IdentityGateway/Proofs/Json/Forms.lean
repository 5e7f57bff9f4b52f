import IdentityGateway.Json.Skip
import IdentityGateway.Proofs.Json.NumeralForms
import IdentityGateway.Proofs.Json.Spelling

/-!
# The form of values

The grammar of JSON: words, numerals, strings, lists and objects, with blanks around every mark of a
container and without a limit of nesting. A value that nobody wants is read past exactly if it has
this form.
-/

namespace IdentityGateway.Json

open Byte

/-! ## The grammar -/

/-- Nothing but blanks. -/
def AllBlank (bs : List UInt8) : Prop :=
  ∀ b ∈ bs, isBlank b = true

/-- What stands before a part of a container: blanks, and before every part but the first a comma
among them. -/
inductive Gap : Bool → List UInt8 → Prop
  | first {blanks : List UInt8} (hblanks : AllBlank blanks) : Gap true blanks
  | next {before behind : List UInt8} (hbefore : AllBlank before) (hbehind : AllBlank behind) :
      Gap false (before ++ comma :: behind)

/-- Parts one after another, with blanks behind the last. -/
inductive Series {α : Type} (Part : α → List UInt8 → Prop) : Bool → List α → List UInt8 → Prop
  | done {first : Bool} {blanks : List UInt8} (hblanks : AllBlank blanks) :
      Series Part first [] blanks
  | cons {first : Bool} {a : α} {as : List α} {gap text rest : List UInt8} (hgap : Gap first gap)
      (hpart : Part a text) (hrest : Series Part false as rest) :
      Series Part first (a :: as) (gap ++ (text ++ rest))

/-- A member of an object: a key between quotes, a colon, and the text of a value. -/
inductive MemberText {κ : Type} (Key : List UInt8 → κ → Prop) : κ × List UInt8 → List UInt8 → Prop
  | parts {key : κ} {source before behind text : List UInt8} (hkey : Key source key)
      (hbefore : AllBlank before) (hbehind : AllBlank behind) :
      MemberText Key (key, text)
        (quote :: (source ++ quote :: (before ++ colon :: (behind ++ text))))

/-- A key of which only the form matters. -/
def AnyKey (source : List UInt8) (_ : Unit) : Prop :=
  StringForm source

/-- The form of a value without parts. -/
inductive ScalarForm : List UInt8 → Prop
  | null : ScalarForm (smallN :: nullRest)
  | true : ScalarForm (smallT :: trueRest)
  | false : ScalarForm (smallF :: falseRest)
  | number {text : List UInt8} (htext : NumeralForm text) : ScalarForm text
  | string {source : List UInt8} (hsource : StringForm source) :
      ScalarForm (quote :: (source ++ [quote]))

/-- The grammar of JSON: bytes that are one value without blanks around it, whatever it says. -/
inductive ValueForm : List UInt8 → Prop
  | scalar {text : List UInt8} (htext : ScalarForm text) : ValueForm text
  | list {items : List (List UInt8)} {body : List UInt8} (hbody : Series Eq true items body)
      (hitems : ∀ item ∈ items, ValueForm item) : ValueForm (openList :: (body ++ [closeList]))
  | object {members : List (Unit × List UInt8)} {body : List UInt8}
      (hbody : Series (MemberText AnyKey) true members body)
      (hmembers : ∀ m ∈ members, ValueForm m.2) : ValueForm (openObject :: (body ++ [closeObject]))

section

variable {bs rest text body before after : List UInt8} {b : UInt8}

/-! ## Blanks -/

/-- Blanks may be left out wherever they are allowed. -/
theorem AllBlank.nil : AllBlank [] :=
  List.forall_mem_nil _

/-- A byte that is no blank is not skipped. -/
theorem skipBlanks_cons {b : UInt8} (hb : isBlank b = false) (bs : List UInt8) :
    skipBlanks (b :: bs) = b :: bs := by
  rw [skipBlanks, List.dropWhile_cons_of_neg (by simp [hb])]

/-- Blanks before other bytes are skipped. -/
theorem skipBlanks_append (h : AllBlank before) (bs : List UInt8) :
    skipBlanks (before ++ bs) = skipBlanks bs :=
  List.dropWhile_append_of_pos h

/-- Blanks are skipped up to a byte that is none. -/
theorem skipBlanks_append_cons (h : AllBlank before) (hb : isBlank b = false) (bs : List UInt8) :
    skipBlanks (before ++ b :: bs) = b :: bs := by
  rw [skipBlanks_append h, skipBlanks_cons hb]

/-- What is skipped before a byte are blanks. -/
theorem exists_blanks (h : skipBlanks bs = b :: rest) :
    ∃ before, bs = before ++ b :: rest ∧ AllBlank before ∧ isBlank b = false := by
  have hhead := List.head?_dropWhile_not isBlank bs
  rw [← skipBlanks, h] at hhead
  refine ⟨bs.takeWhile isBlank, ?_, fun _ hc => List.mem_takeWhile_imp hc, by simpa using hhead⟩
  rw [← h]
  exact List.takeWhile_append_dropWhile.symm

/-- Where no byte is left behind blanks, there are only blanks. -/
theorem skipBlanks_eq_nil_iff : skipBlanks bs = [] ↔ AllBlank bs :=
  List.dropWhile_eq_nil_iff

/-- Blanks may come after a value. -/
theorem EndsValue.append (h : AllBlank before) (hrest : EndsValue rest) :
    EndsValue (before ++ rest) := by
  cases before with
  | nil => exact hrest
  | cons c before =>
    rintro b ⟨⟩
    have hc : isBlank c = true := h c List.mem_cons_self
    simp only [isBlank, Bool.or_eq_true, beq_iff_eq] at hc
    rcases hc with ((rfl | rfl) | rfl) | rfl <;> decide

/-- A value may end before one of the bytes that end it. -/
theorem EndsValue.cons (hb : b ∈ enders) (rest : List UInt8) : EndsValue (b :: rest) := by
  rintro c ⟨⟩
  exact hb

/-! ## Series -/

section

variable {α β : Type} {Part : α → List UInt8 → Prop} {as : List α} {first : Bool}

/-- Blanks behind a gap belong to it. -/
theorem Gap.append {gap : List UInt8} (h : Gap first gap) (hbefore : AllBlank before) :
    Gap first (gap ++ before) := by
  cases h with
  | first hblanks => exact .first (List.forall_mem_append.mpr ⟨hblanks, hbefore⟩)
  | @next start behind hstart hbehind =>
    rw [List.append_assoc, List.cons_append]
    exact .next hstart (List.forall_mem_append.mpr ⟨hbehind, hbefore⟩)

/-- A value may end before the rest of the series around it. -/
theorem Series.endsValue (h : Series Part false as body) (hb : b ∈ enders) (rest : List UInt8) :
    EndsValue (body ++ b :: rest) := by
  cases h with
  | done hblanks => exact .append hblanks (.cons hb rest)
  | cons hgap _ _ =>
    cases hgap with
    | next hbefore _ =>
      rw [List.append_assoc, List.append_assoc]
      exact .append hbefore (.cons (by decide) _)

/-- The parts of a series may be seen as other parts. -/
theorem Series.map {Part' : β → List UInt8 → Prop} {f : α → β}
    (hpart : ∀ a ∈ as, ∀ text, Part a text → Part' (f a) text) (h : Series Part first as body) :
    Series Part' first (as.map f) body := by
  induction h with
  | done hblanks => exact .done hblanks
  | cons hgap ha _ ih =>
    exact .cons hgap (hpart _ List.mem_cons_self _ ha)
      (ih fun a ha => hpart a (List.mem_cons_of_mem _ ha))

end

/-! ## Marks -/

/-- A word is read where it stands. -/
theorem word_eq_ok_iff {ws : List UInt8} : word ws bs = .ok rest ↔ bs = ws ++ rest := by
  constructor
  · intro h
    induction ws generalizing bs with
    | nil =>
      rw [word.eq_1] at h
      exact Except.ok.inj h
    | cons w ws ih =>
      cases bs with
      | nil => cases h
      | cons b bs =>
        rw [word] at h
        split at h
        · next hb => rw [ih h, hb, List.cons_append]
        · cases h
  · rintro rfl
    induction ws with
    | nil => cases rest <;> rfl
    | cons w ws ih => rw [List.cons_append, word, if_pos rfl, ih]

/-- A colon is found behind blanks. -/
theorem afterColon_eq_ok_iff :
    afterColon bs = .ok rest ↔ ∃ before, bs = before ++ colon :: rest ∧ AllBlank before := by
  constructor
  · intro h
    unfold afterColon at h
    split at h
    · cases h
    · next hskip =>
      split at h
      · next hb =>
        cases h
        obtain ⟨before, rfl, hbefore, -⟩ := exists_blanks hskip
        exact ⟨before, by rw [hb], hbefore⟩
      · cases h
  · rintro ⟨before, rfl, hbefore⟩
    simp only [afterColon, skipBlanks_append_cons hbefore (show isBlank colon = false from rfl),
      if_true]

/-! ## Scalars that nobody wants -/

/-- What is read past as a scalar has the form of one. -/
theorem exists_scalarForm (h : skipScalar b bs = .ok rest) :
    ∃ text, b :: bs = text ++ rest ∧ ScalarForm text := by
  unfold skipScalar at h
  split at h
  · next hb => exact ⟨_, by rw [hb, word_eq_ok_iff.mp h]; rfl, .null⟩
  split at h
  · next hb => exact ⟨_, by rw [hb, word_eq_ok_iff.mp h]; rfl, .true⟩
  split at h
  · next hb => exact ⟨_, by rw [hb, word_eq_ok_iff.mp h]; rfl, .false⟩
  split at h
  · next hb =>
    obtain ⟨text, rfl, htext⟩ := Numeral.exists_magnitude h
    exact ⟨minus :: text, by rw [hb]; rfl, .number (.negative htext)⟩
  split at h
  · obtain ⟨text, htext, hform⟩ := Numeral.exists_magnitude h
    exact ⟨text, htext, .number (.positive hform)⟩
  split at h
  · next hb =>
    obtain ⟨source, rfl, hsource⟩ := exists_stringForm h
    exact ⟨quote :: (source ++ [quote]), by rw [hb]; simp, .string hsource⟩
  · cases h

/-- The first byte of a scalar opens no container and is no blank. -/
structure StartsScalar (b : UInt8) : Prop where
  blank : isBlank b = false
  openList : b ≠ openList
  openObject : b ≠ openObject
  closeList : b ≠ closeList

/-- Digits are never skipped as blanks. -/
theorem isBlank_of_isDigit {b : UInt8} (hb : isDigit b = true) : isBlank b = false := by
  simp only [isBlank, Bool.or_eq_false_iff, beq_eq_false_iff_ne]
  exact ⟨⟨⟨ne_of_isDigit hb rfl, ne_of_isDigit hb rfl⟩, ne_of_isDigit hb rfl⟩,
    ne_of_isDigit hb rfl⟩

/-- A digit begins a numeral, and so a scalar. -/
theorem StartsScalar.of_isDigit (hb : isDigit b = true) : StartsScalar b :=
  ⟨isBlank_of_isDigit hb, ne_of_isDigit hb rfl, ne_of_isDigit hb rfl, ne_of_isDigit hb rfl⟩

/-- A numeral without a sign starts with a digit. -/
theorem Magnitude.exists_digit (h : Magnitude text) :
    ∃ b bs, text = b :: bs ∧ isDigit b = true := by
  cases h with
  | @parts whole tail hwhole _ =>
    cases whole with
    | nil => exact absurd rfl hwhole.nonempty
    | cons b ds => exact ⟨b, _, rfl, hwhole.digits b List.mem_cons_self⟩

/-- A digit is read past with what follows it as a number. -/
theorem skipScalar_of_isDigit (hb : isDigit b = true) (bs : List UInt8) :
    skipScalar b bs = Numeral.skip (b :: bs) := by
  rw [skipScalar, if_neg (ne_of_isDigit hb rfl), if_neg (ne_of_isDigit hb rfl),
    if_neg (ne_of_isDigit hb rfl), if_neg (ne_of_isDigit hb rfl), if_pos hb]

/-- What has the form of a scalar is read past. -/
theorem ScalarForm.skipScalar (h : ScalarForm text) (hrest : EndsValue rest) :
    ∃ b bs, text ++ rest = b :: bs ∧ StartsScalar b ∧ Json.skipScalar b bs = .ok rest := by
  cases h with
  | null => exact ⟨smallN, _, rfl, ⟨rfl, by decide, by decide, by decide⟩, rfl⟩
  | true => exact ⟨smallT, _, rfl, ⟨rfl, by decide, by decide, by decide⟩, rfl⟩
  | false => exact ⟨smallF, _, rfl, ⟨rfl, by decide, by decide, by decide⟩, rfl⟩
  | number htext =>
    cases htext with
    | positive htext =>
      have hskip := Numeral.skip_append htext hrest
      obtain ⟨b, bs, rfl, hb⟩ := htext.exists_digit
      exact ⟨b, bs ++ rest, rfl, .of_isDigit hb, by rw [skipScalar_of_isDigit hb]; exact hskip⟩
    | @negative text htext =>
      refine ⟨minus, text ++ rest, rfl, ⟨rfl, by decide, by decide, by decide⟩, ?_⟩
      exact Numeral.skip_append htext hrest
  | @string source hsource =>
    refine ⟨quote, source ++ quote :: rest, by simp, ⟨rfl, by decide, by decide, by decide⟩, ?_⟩
    refine hsource.skipString rest ?_
    simp only [budget, List.length_cons, List.length_append]
    omega

/-- The first byte of a value ends no list. -/
theorem ValueForm.exists_cons (h : ValueForm text) :
    ∃ b bs, text = b :: bs ∧ isBlank b = false ∧ b ≠ closeList := by
  cases h with
  | scalar htext =>
    obtain ⟨b, bs, heq, hb, -⟩ := htext.skipScalar (show EndsValue [] from nofun)
    rw [List.append_nil] at heq
    exact ⟨b, bs, heq, hb.blank, hb.closeList⟩
  | list _ _ => exact ⟨Byte.openList, _, rfl, rfl, by decide⟩
  | object _ _ => exact ⟨Byte.openObject, _, rfl, rfl, by decide⟩

/-! ## Keys that nobody wants -/

/-- What is read past as a key is a string and a colon. -/
theorem exists_key (h : skipKey bs = .ok rest) :
    ∃ before source behind, bs = before ++ quote :: (source ++ quote :: (behind ++ colon :: rest)) ∧
      AllBlank before ∧ StringForm source ∧ AllBlank behind := by
  unfold skipKey at h
  split at h
  · cases h
  · next hskip =>
    split at h
    · next hb =>
      split at h
      · cases h
      · next hstring =>
        obtain ⟨before, rfl, hbefore, -⟩ := exists_blanks hskip
        obtain ⟨source, rfl, hsource⟩ := exists_stringForm hstring
        obtain ⟨behind, rfl, hbehind⟩ := afterColon_eq_ok_iff.mp h
        exact ⟨before, source, behind, by rw [hb], hbefore, hsource, hbehind⟩
    · cases h

/-- A string and a colon are read past as a key. -/
theorem skipKey_append {source behind : List UInt8} (hbefore : AllBlank before)
    (hsource : StringForm source) (hbehind : AllBlank behind) (rest : List UInt8) :
    skipKey (before ++ quote :: (source ++ quote :: (behind ++ colon :: rest))) = .ok rest := by
  have hsteps : source.length <
      (budget (source ++ quote :: (behind ++ colon :: rest))).length := by
    simp only [budget, List.length_cons, List.length_append]
    omega
  simp only [skipKey, skipBlanks_append_cons hbefore (show isBlank quote = false from rfl), if_true,
    hsource.skipString _ hsteps, afterColon_eq_ok_iff.mpr ⟨behind, rfl, hbehind⟩]

/-! ## The end of what nobody wants -/

/-- Reading past a value ends where no container is open. -/
theorem skipNested_ending_nil (step : UInt8) (steps : Budget) (bs : List UInt8) :
    skipNested (step :: steps) .ending [] bs = .ok bs := by
  rw [skipNested]

end

end IdentityGateway.Json
