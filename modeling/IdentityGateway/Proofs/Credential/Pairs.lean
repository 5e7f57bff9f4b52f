import IdentityGateway.Proofs.Credential

/-!
# The credential of a request

A request has the token behind `Bearer` in its first authorization header. Without such a token it
has the value of the first pair of the name that is looked for, over all its headers of cookies in
order. Headers that are no text and pieces that are no pairs do not count.
-/

namespace IdentityGateway.Credential

open Http (FieldValue Headers)
open Cookie (Spells)

/-- The first authorization header is text, and what follows `Bearer` and one space is the token. -/
def SendsBearer (headers : Headers) (token : String) : Prop :=
  ∃ value, headers.first? "authorization" = some value ∧
    FieldValue.text? value = some ("Bearer " ++ token)

namespace Cookie

/-- The name of a pair has neither a space nor a tab in it. A piece that is no pair may have. -/
def Solid (cookie : Cookie) : Prop :=
  cookie.value? ≠ none → ' ' ∉ cookie.name.toList ∧ '\t' ∉ cookie.name.toList

instance (cookie : Cookie) : Decidable cookie.Clean :=
  decidable_of_iff ('=' ∉ cookie.name.toList ∧ ';' ∉ cookie.chars)
    ⟨fun h => ⟨h.1, h.2⟩, fun h => ⟨h.equals, h.semicolon⟩⟩

instance (cookie : Cookie) : Decidable cookie.Solid :=
  inferInstanceAs (Decidable (_ → _))

/-- What a header of cookies holds: nothing if it is no text, and else the cookies that it is the
text of. -/
inductive Holds : FieldValue → List Cookie → Prop
  | unread {value : FieldValue} (hvalue : FieldValue.text? value = none) : Holds value []
  | spelled {value : FieldValue} {cookies : List Cookie} (hspells : Spells value cookies)
      (hsolid : ∀ cookie ∈ cookies, cookie.Solid) : Holds value cookies

/-- The pairs of a name and a value among some cookies. -/
def pairs (cookies : List Cookie) : List (String × String) :=
  cookies.filterMap fun cookie => cookie.value?.map fun value => (cookie.name, value)

end Cookie

open Cookie (Holds pairs)

section

variable {headers : Headers} {name token : String} {value : FieldValue} {cookie : Cookie}
  {cookies : List Cookie}

/-! ## Bearer tokens -/

/-- Something stands behind a mark exactly if the mark stands before it. -/
theorem afterMark?_eq_some_iff {mark cs rest : List Char} :
    afterMark? mark cs = some rest ↔ cs = mark ++ rest := by
  constructor
  · intro h
    induction mark generalizing cs with
    | nil =>
      rw [afterMark?.eq_1] at h
      exact Option.some.inj h
    | cons m mark ih =>
      cases cs with
      | nil => cases h
      | cons c cs =>
        rw [afterMark?] at h
        split at h
        · next hmark => rw [ih h, hmark, List.cons_append]
        · cases h
  · rintro rfl
    exact afterMark?_append mark rest

/-- A request has a bearer token exactly if it sends one. -/
theorem bearer?_eq_some_iff : bearer? headers = some token ↔ SendsBearer headers token := by
  constructor
  · intro h
    simp only [bearer?, Option.bind_eq_bind, Option.bind_eq_some_iff, Option.pure_def,
      Option.some.injEq] at h
    obtain ⟨value, hfirst, text, htext, rest, hrest, rfl⟩ := h
    have hchars : text.toList = "Bearer ".toList ++ rest := afterMark?_eq_some_iff.mp hrest
    have hsplit : text = "Bearer " ++ String.ofList rest := by
      apply String.toList_inj.mp
      rw [hchars, String.toList_append]
      exact congrArg _ String.toList_ofList.symm
    exact ⟨value, hfirst, hsplit ▸ htext⟩
  · rintro ⟨value, hfirst, htext⟩
    exact bearer?_eq_some hfirst htext

/-- A request that sends no bearer token has none. -/
theorem bearer?_eq_none (h : ∀ token, ¬ SendsBearer headers token) : bearer? headers = none := by
  rw [Option.eq_none_iff_forall_ne_some]
  intro token htoken
  exact h token (bearer?_eq_some_iff.mp htoken)

/-! ## Names of cookies -/

/-- The bytes of headers that are text are tabs and the codes of printable ASCII. -/
theorem isTextByte_iff {b : UInt8} : Http.isTextByte b = true ↔
    b.toNat = 9 ∨ 0x20 ≤ b.toNat ∧ b.toNat < 0x7F := by
  simp only [Http.isTextByte, Bool.or_eq_true, Bool.and_eq_true, decide_eq_true_eq, beq_iff_eq,
    UInt8.le_iff_toNat_le, UInt8.lt_iff_toNat_lt, ← UInt8.toNat_inj]
  exact or_comm

/-- The blank characters that may be in a header are spaces and tabs. -/
theorem eq_of_isTextByte {b : UInt8} (hb : Http.isTextByte b = true)
    (hblank : Text.isBlank (Char.ofNat b.toNat) = true) :
    Char.ofNat b.toNat = ' ' ∨ Char.ofNat b.toNat = '\t' := by
  have hascii : ∀ n < 0x80, 32 ≤ n ∨ n = 9 → Text.isBlank (Char.ofNat n) = true →
      Char.ofNat n = ' ' ∨ Char.ofNat n = '\t' := by decide
  have hcode := isTextByte_iff.mp hb
  exact hascii b.toNat (by omega) (by omega) hblank

/-- The blank characters of a header that is text are spaces and tabs. -/
theorem eq_of_isBlank {text : String} (htext : FieldValue.text? value = some text) {c : Char}
    (hc : c ∈ text.toList) (hblank : Text.isBlank c = true) : c = ' ' ∨ c = '\t' := by
  rw [FieldValue.text?] at htext
  split at htext
  · next hall =>
    cases htext
    rw [String.toList_ofList, List.mem_map] at hc
    obtain ⟨b, hb, rfl⟩ := hc
    exact eq_of_isTextByte (List.all_eq_true.mp hall b hb) hblank
  · cases htext

/-- The text of a cookie is part of the text of the cookies it stands among. -/
theorem Cookie.chars_subset_line (hmem : cookie ∈ cookies) :
    cookie.chars ⊆ Cookie.line cookies := by
  induction cookies with
  | nil => cases hmem
  | cons first cookies ih =>
    cases cookies with
    | nil =>
      obtain rfl := List.mem_singleton.mp hmem
      simp [Cookie.line]
    | cons second cookies =>
      have hline : Cookie.line (first :: second :: cookies) =
          first.chars ++ [';', ' '] ++ Cookie.line (second :: cookies) := by
        simp only [Cookie.line, List.map_cons, List.intercalate_cons_cons]
      rw [hline]
      rcases List.mem_cons.mp hmem with rfl | hrest
      · exact fun c hc => List.mem_append_left _ (List.mem_append_left _ hc)
      · exact fun c hc => List.mem_append_right _ (ih hrest hc)

/-- The name of a cookie is part of its text. -/
theorem Cookie.name_subset_chars (cookie : Cookie) : cookie.name.toList ⊆ cookie.chars := by
  unfold Cookie.chars
  cases cookie.value? with
  | none => exact List.Subset.refl _
  | some value => exact List.subset_append_left _ _

private theorem Cookie.trim_name (hspells : Spells value cookies) (hmem : cookie ∈ cookies)
    (hsolid : cookie.Solid) (hvalue : cookie.value? ≠ none) :
    Text.trim cookie.name = cookie.name := by
  obtain ⟨hspace, htab⟩ := hsolid hvalue
  have hblank : ∀ c ∈ cookie.name.toList, Text.isBlank c = false := by
    intro c hc
    have hline : c ∈ (String.ofList (Cookie.line cookies)).toList := by
      rw [String.toList_ofList]
      exact Cookie.chars_subset_line hmem (cookie.name_subset_chars hc)
    rw [Bool.eq_false_iff]
    intro hblank
    rcases eq_of_isBlank hspells.text hline hblank with rfl | rfl
    · exact hspace hc
    · exact htab hc
  have htrimmed : Text.Trimmed cookie.name.toList :=
    ⟨fun c hc => hblank c (List.mem_of_mem_head? hc),
      fun c hc => hblank c (List.mem_of_mem_getLast? hc)⟩
  rw [Text.trim, htrimmed.trimChars_eq, String.ofList_toList]

/-! ## The first pair of a name -/

/-- The value of a cookie, if it is a pair of some name. -/
def Cookie.valueOf? (name : String) (cookie : Cookie) : Option String :=
  if cookie.name = name then cookie.value? else none

/-- The first cookie that is a pair of a name is the first pair of the name. -/
theorem findSome?_valueOf? (name : String) (cookies : List Cookie) :
    cookies.findSome? (Cookie.valueOf? name) =
      ((pairs cookies).find? fun pair => pair.1 == name).map (·.2) := by
  induction cookies with
  | nil => rfl
  | cons cookie cookies ih =>
    rw [List.findSome?_cons, pairs, List.filterMap_cons, Cookie.valueOf?]
    cases cookie.value? with
    | none => simpa [pairs] using ih
    | some value =>
      by_cases hname : cookie.name = name
      · simp [hname]
      · simpa [hname, pairs] using ih

/-- A cookie whose name has no blank margins gives its value if it is a pair of the name. -/
theorem pairValue?_eq_valueOf? (hclean : cookie.Clean)
    (htrim : cookie.value? ≠ none → Text.trim cookie.name = cookie.name) (name : String) :
    pairValue? name cookie.chars = (cookie.valueOf? name).map String.toList := by
  rw [pairValue?_chars hclean, Cookie.valueOf?]
  cases hvalue : cookie.value? with
  | none => simp
  | some value =>
    rw [htrim (by simp [hvalue])]
    split <;> rfl

/-- If every cookie gives its value, the first value is given. -/
theorem findSome?_chars
    (h : ∀ cookie ∈ cookies,
      pairValue? name cookie.chars = (cookie.valueOf? name).map String.toList) :
    (cookies.findSome? fun cookie => pairValue? name cookie.chars) =
      (cookies.findSome? (Cookie.valueOf? name)).map String.toList := by
  induction cookies with
  | nil => rfl
  | cons cookie cookies ih =>
    obtain ⟨hfirst, hrest⟩ := List.forall_mem_cons.mp h
    rw [List.findSome?_cons, List.findSome?_cons, hfirst, ih hrest]
    cases cookie.valueOf? name <;> rfl

/-- A header gives the value of the first of its pairs of the name. -/
theorem cookieIn?_of_holds (hholds : Holds value cookies) (name : String) :
    cookieIn? name value = (cookies.findSome? (Cookie.valueOf? name)).map String.toList := by
  cases hholds with
  | unread hvalue =>
    rw [cookieIn?, hvalue]
    rfl
  | spelled hspells hsolid =>
    rw [cookieIn?_eq hspells]
    exact findSome?_chars fun cookie hmem =>
      pairValue?_eq_valueOf? (hspells.clean cookie hmem)
        (Cookie.trim_name hspells hmem (hsolid cookie hmem)) name

/-- The headers of cookies give the value of the first pair of the name among all of them. -/
theorem findSome?_cookieIn? {values : List FieldValue} {lines : List (List Cookie)}
    (hlines : List.Forall₂ Holds values lines) (name : String) :
    values.findSome? (cookieIn? name) =
      (lines.flatten.findSome? (Cookie.valueOf? name)).map String.toList := by
  induction hlines with
  | nil => rfl
  | cons hholds _ ih =>
    rw [List.findSome?_cons, cookieIn?_of_holds hholds, ih, List.flatten_cons,
      List.findSome?_append]
    cases List.findSome? (Cookie.valueOf? name) _ <;> rfl

/-- A request that sends a bearer token has it as its credential, whatever else it sends. Any other
request has the first pair of the name that is looked for, and without such a pair it has no
credential. -/
theorem extract_eq_first (headers : Headers) (name : String) :
    (∀ token, SendsBearer headers token → extract headers name = some ⟨token, .header⟩) ∧
    ((∀ token, ¬ SendsBearer headers token) →
      ∀ lines, List.Forall₂ Holds (headers.all "cookie") lines →
        extract headers name =
          ((pairs lines.flatten).find? fun pair => pair.1 == name).map
            fun pair => ⟨pair.2, .cookie⟩) := by
  constructor
  · intro token htoken
    rw [extract, bearer?_eq_some_iff.mpr htoken]
  · intro hnone lines hlines
    rw [extract, bearer?_eq_none hnone, cookie?_eq, findSome?_cookieIn? hlines,
      findSome?_valueOf?]
    cases (pairs lines.flatten).find? fun pair => pair.1 == name <;> simp

/-- Headers with a mark in small letters, a header that is no text, near misses of the name, a
piece that is no pair, and two pairs of the name. -/
theorem extract_pairedHeaders :
    let headers : Headers := [
      ("authorization", Http.asciiBytes "bearer t"),
      ("cookie", 0x80 :: Http.asciiBytes "sid=0"),
      ("cookie", Http.asciiBytes "my_sid=1; sid"),
      ("cookie", Http.asciiBytes "sids=2; sid=a%3Db= ; sid=3")]
    let lines : List (List Cookie) := [
      [],
      [⟨"my_sid", some "1"⟩, ⟨"sid", none⟩],
      [⟨"sids", some "2"⟩, ⟨"sid", some "a%3Db= "⟩, ⟨"sid", some "3"⟩]]
    let bearing : Headers := ("authorization", Http.asciiBytes "Bearer  x ") :: headers
    (∀ token, ¬ SendsBearer headers token) ∧
      List.Forall₂ Holds (headers.all "cookie") lines ∧
      extract headers "sid" = some ⟨"a%3Db= ", .cookie⟩ ∧
      SendsBearer bearing " x " ∧ extract bearing "sid" = some ⟨" x ", .header⟩ := by
  intro headers lines bearing
  have hnone : ∀ token, ¬ SendsBearer headers token := by
    intro token htoken
    have hread := bearer?_eq_some_iff.mpr htoken
    have hempty : bearer? headers = none := by decide
    rw [hempty] at hread
    cases hread
  have hlines : List.Forall₂ Holds (headers.all "cookie") lines := by
    refine .cons (.unread (by decide)) (.cons (.spelled ⟨?_, by decide⟩ ?_)
      (.cons (.spelled ⟨?_, by decide⟩ ?_) .nil)) <;> decide
  have hbearer : SendsBearer bearing " x " := ⟨_, rfl, by decide⟩
  exact ⟨hnone, hlines, (extract_eq_first headers "sid").2 hnone lines hlines, hbearer,
    (extract_eq_first bearing "sid").1 " x " hbearer⟩

end

end IdentityGateway.Credential
