import IdentityGateway.Host.Label
import IdentityGateway.Host.Punycode
import IdentityGateway.Text.Blank
import IdentityGateway.Unicode.Mapping

/-!
# Host names in ASCII

A host name of any script is mapped, normalized and split into labels; each label is
checked, and those that are not ASCII are written in ASCII.
-/

namespace IdentityGateway.Host

/-- The mapped code points of a text, unless one is disallowed. -/
def mapped? : List Nat → Option (List Nat)
  | [] => some []
  | n :: rest => match Unicode.treatment n with
    | .valid => (mapped? rest).map (n :: ·)
    | .ignored => mapped? rest
    | .replaced targets => (mapped? rest).map (targets ++ ·)
    | .disallowed => none

/-- The labels of a text between its points. -/
def labels : List Nat → List (List Nat)
  | [] => [[]]
  | n :: rest =>
    if n = 46 then [] :: labels rest
    else match labels rest with
      | [] => [[n]]
      | label :: more => (n :: label) :: more

/-- Whether all code points are ASCII. -/
def isAscii (text : List Nat) : Bool :=
  text.all (· < 128)

/-- What an encoded label starts with. -/
def encodedMark : List Nat := [120, 110, 45, 45]

/-- The greatest number of characters after the mark of an encoded label. -/
def decodingLimit : Nat := 2000

/-- The greatest number of code points that an encoded label stands for. -/
def encodingLimit : Nat := 1000

/-- The label that an encoded one stands for: it has code points beyond ASCII and is what
mapping and normalizing leave as it is. -/
def decodedLabel? (label : List Nat) : Option (List Nat) := do
  let written := label.drop encodedMark.length
  let text ← if written.length ≤ decodingLimit then Punycode.decode? written else none
  if isAscii label && !isAscii text && mapped? text == some text &&
      Unicode.composed text == text then
    some text
  else none

/-- A label as a reader sees it, decoded if it is marked as encoded. -/
def readLabel? (label : List Nat) : Option (List Nat) :=
  if encodedMark.isPrefixOf label then decodedLabel? label else some label

/-- Whether the label as it is read may stand in a name. -/
def labelAllowed (label : List Nat) : Bool :=
  isAscii label || (!startsWithMark label && joinersAllowed [] label)

/-- Whether the name reads the same way throughout: if a label has letters that run from right to
left, every label has to keep the rules for such names. -/
def directionsAgree (labels : List (List Nat)) : Bool :=
  let classes := labels.map fun label => label.map Unicode.direction
  !(classes.any fun label => label.any isRightToLeft) || classes.all directionsAllowed

/-- A label as it is read in ASCII, unless it is too long to be encoded. -/
def asciiLabel? (label : List Nat) : Option (List Nat) :=
  if isAscii label then some label
  else if label.length ≤ encodingLimit then some (encodedMark ++ Punycode.encode label)
  else none

/-- The host name in ASCII, unless it is no host name. -/
def ascii? (name : List Char) : Option (List Char) := do
  let text ← mapped? (name.map Char.toNat)
  let written := labels (Unicode.composed text)
  let read ← written.mapM readLabel?
  if read.all labelAllowed && directionsAgree read then
    let encoded ← read.mapM asciiLabel?
    return List.intercalate ['.'] (encoded.map fun label => label.map Char.ofNat)
  else none

end IdentityGateway.Host
