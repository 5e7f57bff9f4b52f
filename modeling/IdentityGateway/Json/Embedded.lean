import IdentityGateway.Json.Reader

/-!
# Texts in texts

An object may stand for the value of another text: it gives this text as a string, under a key of
its own that comes first. Where a value of any form is expected, such an object is replaced by the
value of the text. A record is read from a text without this, and so is what stands in it.
-/

namespace IdentityGateway.Json

open Byte

/-- The key of a text that stands in an object. -/
def embeddedKey : String := "$serde_json::private::RawValue"

/-- The bytes after the first key of an object, if this is the key of a text. -/
def afterEmbeddedKey? (bs : List UInt8) : Option (List UInt8) :=
  match nextKey true bs with
  | .ok (true, rest) => match string rest with
    | .ok (key, rest) => if key = embeddedKey then some rest else none
    | .error _ => none
  | _ => none

/-- The fault of a text that stands in another one as a string, which ends before `rest`. -/
def Fault.embedded (f : Fault) (text rest : List UInt8) : Fault :=
  ⟨.embedded f.reason (f.position text), rest.length, []⟩

/-- The value of a text that stands in an object, read after its key by `text`. The object has no
other member. -/
def embeddedValue (text : List UInt8 → Except Fault Value) : Reader Value := fun bs =>
  match afterColon bs with
  | .error f => .error f
  | .ok rest => match token rest with
    | .error f => .error f
    | .ok (.string s, rest) => match text s.toUTF8.toList with
      | .error f => .error (f.embedded s.toUTF8.toList rest)
      | .ok v => closed v (closeMembers rest)
    | .ok (t, rest) => .error (.unfit (.invalidType t "raw value") rest)

/-- An object is replaced by the value of the text that stands in it, if one does. -/
def untypedObject (text : List UInt8 → Except Fault Value) : ObjectReader := fun item bs =>
  match afterEmbeddedKey? bs with
  | some rest => embeddedValue text rest
  | none => plainObject item bs

/-- The value of a text and of the texts in it. A text is longer than one that stands in it, so
that a step for each byte suffices. -/
def untypedText : Budget → List UInt8 → Except Fault Value
  | [], _ => .error (.at .endInValue [])
  | _ :: steps, bs => complete (valueBy (untypedObject (untypedText steps)) nestingLimit bs)

/-- The value of a text of which no form is expected, with the values of the texts in it. -/
def Value.ofUntyped (bs : List UInt8) : Except Fault Value :=
  untypedText (budget bs) bs

end IdentityGateway.Json
