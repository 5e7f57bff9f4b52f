import IdentityGateway.Credential
import IdentityGateway.Proofs.Text.Blank
import IdentityGateway.Proofs.Text.Separator

/-!
# Credentials as they are sent

A token is found where clients put it: after `Bearer` in the first authorization header, or else in
a header of cookies. There the first cookie of the name counts, whatever other cookies surround it.
-/

namespace IdentityGateway.Credential

open Http (FieldValue Headers)

/-! ## Cookies -/

/-- A cookie as it stands in a header: a name, and a value behind an equals sign if it has one. -/
structure Cookie where
  name : String
  value? : Option String
  deriving DecidableEq, Repr

namespace Cookie

/-- The text of a cookie. -/
def chars (cookie : Cookie) : List Char :=
  match cookie.value? with
  | none => cookie.name.toList
  | some value => cookie.name.toList ++ '=' :: value.toList

/-- The text of cookies in one header. -/
def line (cookies : List Cookie) : List Char :=
  List.intercalate [';', ' '] (cookies.map chars)

/-- Neither the name of a cookie nor its value has a separator in it. -/
structure Clean (cookie : Cookie) : Prop where
  equals : '=' ∉ cookie.name.toList
  semicolon : ';' ∉ cookie.chars

/-- A cookie has some name, whose blank margins do not count. -/
def Has (cookie : Cookie) (name : String) : Prop :=
  Text.trim cookie.name = name

/-- A header value is the text of cookies. -/
structure Spells (value : FieldValue) (cookies : List Cookie) : Prop where
  clean : ∀ cookie ∈ cookies, cookie.Clean
  text : FieldValue.text? value = some (String.ofList (line cookies))

end Cookie

open Cookie (Spells)

/-- A token is sent as the cookie of some name. It is the first of this name in a header of
cookies, and none of the headers before has one. Header values that are no text do not count. -/
structure CarriesCookie (headers : Headers) (name token : String) : Prop where
  carried : ∃ before value after others rest,
    headers.all "cookie" = before ++ value :: after ∧
    Spells value (others ++ ⟨name, some token⟩ :: rest) ∧
    (∀ cookie ∈ others, ¬ cookie.Has name) ∧
    ∀ earlier ∈ before, FieldValue.text? earlier = none ∨
      ∃ cookies, Spells earlier cookies ∧ ∀ cookie ∈ cookies, ¬ cookie.Has name

/-- The headers of a request present a token. -/
inductive Presents (headers : Headers) (cookieName token : String) : Prop where
  /-- It stands behind `Bearer` in the first authorization header. -/
  | bearer {value : FieldValue} (first : headers.first? "authorization" = some value)
      (text : FieldValue.text? value = some ("Bearer " ++ token)) :
      Presents headers cookieName token
  /-- There is no token of this kind, and it is sent as a cookie. -/
  | cookie (alone : bearer? headers = none) (carries : CarriesCookie headers cookieName token) :
      Presents headers cookieName token

section

variable {headers : Headers} {name token : String} {value : FieldValue} {cookie : Cookie}
  {cookies : List Cookie}

/-! ## Bearer tokens -/

/-- A mark is followed by what stands behind it. -/
theorem afterMark?_append (mark cs : List Char) : afterMark? mark (mark ++ cs) = some cs := by
  induction mark with
  | nil => cases cs <;> rfl
  | cons m mark ih => simp only [List.cons_append, afterMark?, if_true, ih]

/-- The token behind `Bearer` is the bearer token. -/
theorem bearer?_eq_some (hfirst : headers.first? "authorization" = some value)
    (htext : FieldValue.text? value = some ("Bearer " ++ token)) :
    bearer? headers = some token := by
  have hmark : afterMark? bearerMark ("Bearer " ++ token).toList = some token.toList := by
    rw [String.toList_append]
    exact afterMark?_append bearerMark token.toList
  simp only [bearer?, hfirst, htext, hmark, Option.bind_eq_bind, Option.bind_some,
    String.ofList_toList, Option.pure_def]

/-! ## One cookie -/

/-- What is left of a name has no equals sign if the name has none. -/
theorem not_mem_dropWhile {key : List Char} (hkey : '=' ∉ key) :
    '=' ∉ key.dropWhile Text.isBlank :=
  fun hmem => hkey ((List.dropWhile_sublist _).subset hmem)

/-- A text with an equals sign gives what stands behind the first, if the name before it is the one
that is looked for. -/
theorem pairValue?_equals {key : List Char} (hkey : '=' ∉ key) (name : String)
    (value : List Char) :
    pairValue? name (key ++ '=' :: value) =
      if Text.trimChars key = name.toList then some value else none := by
  have hfront : (key ++ '=' :: value).dropWhile Text.isBlank =
      key.dropWhile Text.isBlank ++ '=' :: value :=
    Text.dropWhile_append_cons (by decide) key value
  have hbefore : (key.dropWhile Text.isBlank ++ '=' :: value).takeWhile (· != '=') =
      key.dropWhile Text.isBlank := by
    rw [List.takeWhile_append, Text.takeWhile_of_not_mem (not_mem_dropWhile hkey)]
    simp
  rw [pairValue?, hfront, hbefore, List.drop_left, Text.trimChars_dropWhile]

/-- A text without an equals sign gives nothing. -/
theorem pairValue?_bare {key : List Char} (hkey : '=' ∉ key) (name : String) :
    pairValue? name key = none := by
  rw [pairValue?, Text.takeWhile_of_not_mem (not_mem_dropWhile hkey), List.drop_length]

/-- A cookie gives its value if it has the name that is looked for. -/
theorem pairValue?_chars (hclean : cookie.Clean) (name : String) :
    pairValue? name cookie.chars =
      if Text.trim cookie.name = name then cookie.value?.map String.toList else none := by
  have hname : Text.trimChars cookie.name.toList = name.toList ↔ Text.trim cookie.name = name := by
    rw [Text.trim, ← String.toList_inj, String.toList_ofList]
  unfold Cookie.chars
  cases cookie.value? with
  | none =>
    rw [pairValue?_bare hclean.equals, Option.map_none, ite_self]
  | some value =>
    simp only [pairValue?_equals hclean.equals, hname, Option.map_some]

private theorem pairValue?_self (hclean : Cookie.Clean ⟨name, some token⟩)
    (hname : Text.trim name = name) :
    pairValue? name (Cookie.chars ⟨name, some token⟩) = some token.toList := by
  rw [pairValue?_chars hclean, if_pos hname]
  rfl

private theorem pairValue?_other (hclean : cookie.Clean) (hother : ¬ cookie.Has name) :
    pairValue? name cookie.chars = none := by
  have hne : Text.trim cookie.name ≠ name := hother
  rw [pairValue?_chars hclean, if_neg hne]

private theorem pairValue?_blank (name : String) (pair : List Char) :
    pairValue? name (' ' :: pair) = pairValue? name pair := rfl

/-! ## Headers of cookies -/

/-- A blank before a header of cookies does not count. -/
theorem findSome?_blank (name : String) (cs : List Char) :
    (Text.splitAt ';' (' ' :: cs)).findSome? (pairValue? name) =
      (Text.splitAt ';' cs).findSome? (pairValue? name) := by
  have hblank : ¬ ' ' = ';' := by decide
  simp only [Text.splitAt, if_neg hblank]
  cases Text.splitAt ';' cs with
  | nil => rfl
  | cons piece pieces => simp only [List.findSome?_cons, pairValue?_blank]

/-- A header of cookies gives what the first of its cookies gives. -/
theorem findSome?_line (hclean : ∀ cookie ∈ cookies, cookie.Clean) (name : String) :
    (Text.splitAt ';' (Cookie.line cookies)).findSome? (pairValue? name) =
      cookies.findSome? fun cookie => pairValue? name cookie.chars := by
  induction cookies with
  | nil => rfl
  | cons first cookies ih =>
    obtain ⟨hfirst, hrest⟩ := List.forall_mem_cons.mp hclean
    cases cookies with
    | nil =>
      have hline : Cookie.line [first] = first.chars := by simp [Cookie.line]
      rw [hline, Text.splitAt_eq_splitOn, List.splitOn_eq_singleton hfirst.semicolon]
      rfl
    | cons second cookies =>
      -- the blank behind the semicolon is left to what follows, and dropped there
      have hline : Cookie.line (first :: second :: cookies) =
          first.chars ++ ';' :: ' ' :: Cookie.line (second :: cookies) := by
        simp [Cookie.line, List.intercalate_cons_cons]
      rw [hline, Text.splitAt_eq_splitOn,
        List.splitOn_append_cons_self_of_not_mem hfirst.semicolon, ← Text.splitAt_eq_splitOn,
        List.findSome?_cons, List.findSome?_cons, findSome?_blank, ih hrest]

/-- What the header values give one after another, as far as they are text. -/
def cookieIn? (name : String) (value : FieldValue) : Option (List Char) :=
  (FieldValue.text? value).bind fun text =>
    (Text.splitAt ';' text.toList).findSome? (pairValue? name)

/-- The first header value that gives something is taken. -/
theorem cookie?_eq (headers : Headers) (name : String) :
    cookie? headers name =
      ((headers.all "cookie").findSome? (cookieIn? name)).map String.ofList := by
  rw [cookie?]
  congr 1
  induction headers.all "cookie" with
  | nil => rfl
  | cons value values ih =>
    cases htext : FieldValue.text? value with
    | none =>
      rw [List.filterMap_cons_none htext, ih]
      simp [cookieIn?, htext]
    | some text =>
      rw [List.filterMap_cons_some htext, List.flatMap_cons, List.findSome?_append, ih]
      simp only [List.findSome?_cons, cookieIn?, htext, Option.bind_some]
      cases (Text.splitAt ';' text.toList).findSome? (pairValue? name) <;> rfl

/-- A header of cookies gives what the first of its cookies gives. -/
theorem cookieIn?_eq (hspells : Spells value cookies) (name : String) :
    cookieIn? name value = cookies.findSome? fun cookie => pairValue? name cookie.chars := by
  rw [cookieIn?, hspells.text, Option.bind_some, String.toList_ofList,
    findSome?_line hspells.clean]

/-- Cookies of other names give nothing. -/
theorem findSome?_others (hclean : ∀ cookie ∈ cookies, cookie.Clean)
    (hothers : ∀ cookie ∈ cookies, ¬ cookie.Has name) :
    (cookies.findSome? fun cookie => pairValue? name cookie.chars) = none := by
  rw [List.findSome?_eq_none_iff]
  intro cookie hmem
  exact pairValue?_other (hclean cookie hmem) (hothers cookie hmem)

/-- A token that is sent as a cookie is found under its name. -/
theorem CarriesCookie.cookie?_eq_some (h : CarriesCookie headers name token)
    (hname : Text.trim name = name) : cookie? headers name = some token := by
  obtain ⟨before, value, after, others, rest, hall, hspells, hothers, hbefore⟩ := h.carried
  obtain ⟨hcleanOthers, hclean⟩ := List.forall_mem_append.mp hspells.clean
  have hself : Cookie.Clean ⟨name, some token⟩ := hclean _ List.mem_cons_self
  -- the headers before give nothing, as they are no text or have other cookies only
  have hpassed : before.findSome? (cookieIn? name) = none := by
    rw [List.findSome?_eq_none_iff]
    intro earlier hearlier
    rcases hbefore earlier hearlier with hnone | ⟨cookies, hcookies, hother⟩
    · rw [cookieIn?, hnone, Option.bind_none]
    · rw [cookieIn?_eq hcookies, findSome?_others hcookies.clean hother]
  have hfound : cookieIn? name value = some token.toList := by
    rw [cookieIn?_eq hspells, List.findSome?_append, findSome?_others hcleanOthers hothers,
      List.findSome?_cons, pairValue?_self hself hname]
    rfl
  rw [cookie?_eq, hall, List.findSome?_append, hpassed, List.findSome?_cons, hfound]
  simp

/-- A token that is presented is the credential of the request. -/
theorem Presents.extract_eq (h : Presents headers name token) (hname : Text.trim name = name) :
    ∃ source, extract headers name = some ⟨token, source⟩ := by
  cases h with
  | bearer first text => exact ⟨.header, by rw [extract, bearer?_eq_some first text]⟩
  | cookie alone carries =>
    exact ⟨.cookie, by rw [extract, alone, carries.cookie?_eq_some hname]; rfl⟩

end

end IdentityGateway.Credential
