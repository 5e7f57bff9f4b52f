import IdentityGateway.Http.Header

/-!
# Media types

Whether a content type says that a body is JSON: `application/json`, or a subtype of
`application` with the suffix `json`, with well-formed parameters or none.
-/

namespace IdentityGateway.Http.MediaType

/-- Whether a character may stand in quotes. -/
def isQuotable (c : Char) : Bool :=
  31 < c.toNat && c.toNat != 127

/-- The characters after a quoted value, read after its first character. There are no
escapes: the next quote ends it. -/
def afterQuoted? : List Char → Option (List Char)
  | [] => none
  | '"' :: rest => some rest
  | c :: rest => if isQuotable c then afterQuoted? rest else none

/-- The characters after the first one of a quoted value, which may be a quote too. -/
def afterFirstQuotable? : List Char → Option (List Char)
  | [] => none
  | c :: rest => if isQuotable c then some rest else none

/-- What comes after a quoted value: the end, or a further parameter. -/
def afterParameter? (cs : List Char) : Option (List Char) :=
  match cs.dropWhile (· == ' ') with
  | [] => some []
  | ';' :: rest => some rest
  | _ => none

/-- The characters after a parameter. -/
def parameter? (cs : List Char) : Option (List Char) :=
  let name := cs.takeWhile isTokenChar
  match cs.drop name.length with
  | '=' :: value =>
    if name.isEmpty then none
    else match value with
      | '"' :: quoted => do
        let rest ← afterFirstQuotable? quoted
        let rest ← afterQuoted? rest
        afterParameter? rest
      | _ =>
        let word := value.takeWhile isTokenChar
        match value.drop word.length with
        | [] => some []
        | ';' :: rest => if word.isEmpty then none else some rest
        | _ => none
  | _ => none

/-- Whether parameters are well formed. Spaces may stand before each, and after the last
semicolon. -/
def parametersOk (fuel : Nat) (cs : List Char) : Bool :=
  match fuel, cs.dropWhile (· == ' ') with
  | _, [] => true
  | 0, _ => false
  | fuel + 1, cs => match parameter? cs with
    | some rest => parametersOk fuel rest
    | none => false

/-- The essence of a media type: its type, and its subtype with the suffix. -/
structure Essence where
  type : List Char
  subtype : List Char
  deriving DecidableEq, Repr

/-- The essence of a text, if all of it is well formed. -/
def essence? (text : String) : Option Essence :=
  let cs := text.toList
  let type := cs.takeWhile isTokenChar
  match cs.drop type.length with
  | '/' :: rest =>
    let subtype := rest.takeWhile isTokenChar
    if type.isEmpty then none
    else match rest.drop subtype.length with
      | [] => some ⟨type.map Char.toLower, subtype.map Char.toLower⟩
      | c :: parameters =>
        if c = ';' ∧ !subtype.isEmpty ∧ parametersOk (parameters.length + 1) parameters then
          some ⟨type.map Char.toLower, subtype.map Char.toLower⟩
        else none
  | _ => none

/-- The place of the last plus sign after the first character. -/
def suffixMark? (subtype : List Char) : Option Nat :=
  let tail := (subtype.reverse.takeWhile (· != '+')).length
  if tail + 1 < subtype.length then some (subtype.length - tail - 1) else none

/-- The name of a subtype without its suffix, and the suffix. -/
def nameAndSuffix (subtype : List Char) : List Char × Option (List Char) :=
  match suffixMark? subtype with
  | none => (subtype, none)
  | some k => (subtype.take k, some (subtype.drop (k + 1)))

/-- Whether a content type says that a body is JSON. -/
def isJson (value : FieldValue) : Bool :=
  match value.text?.bind essence? with
  | none => false
  | some essence =>
    let (name, suffix) := nameAndSuffix essence.subtype
    essence.type = "application".toList &&
      (name = "json".toList || suffix = some "json".toList)

end IdentityGateway.Http.MediaType
