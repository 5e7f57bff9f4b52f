import IdentityGateway.Json.Reader
import IdentityGateway.Json.Skip

/-!
# Reading records

A shape lists the fields of a record. By it a record is read straight from a text, or
from a value already held: in both an object gives each field at most once under one of
its names, and an array gives the fields in order.
-/

namespace IdentityGateway.Json

open Byte

/-- What a reader of a part gives: a fault ends the reading at once, a mismatch only after
the record around the part was left. -/
abbrev Outcome (α : Type) := Except Fault (Except Mismatch α × List UInt8)

/-- Two ways to read a thing: from a text in which some containers may be open, and from
a value. -/
structure Codec (α : Type) where
  fromText : Nat → List UInt8 → Outcome α
  fromValue : Value → Except Mismatch α

/-- What is made of a field that is not given. -/
inductive Absence where
  /-- The record is refused. -/
  | required
  /-- An object may leave the field out, an array may not. -/
  | optional
  /-- Both may leave the field out. -/
  | defaulted
  deriving DecidableEq, Repr

/-- A field of a record that is drafted in `σ`. -/
structure Field (σ : Type) where
  name : String
  aliases : List String
  absence : Absence
  isGiven : σ → Bool
  codec : Codec (σ → σ)

/-- Whether a key names the field. -/
def Field.answersTo {σ : Type} (field : Field σ) (key : String) : Bool :=
  field.name == key || field.aliases.contains key

/-- How a record is read: its fields in order, the draft before any is given, and the
record that a draft becomes. -/
structure Shape (σ α : Type) where
  title : String
  fields : List (Field σ)
  blank : σ
  finish : σ → Except Mismatch α

namespace Codec

/-- A reader followed by a function. -/
def map {α β : Type} (f : α → β) (c : Codec α) : Codec β where
  fromText levels bs := (c.fromText levels bs).map fun (a, rest) => (a.map f, rest)
  fromValue v := (c.fromValue v).map f

/-- A scalar, judged by its outermost form. A mismatch is noticed just after it. -/
def ofToken {α : Type} (accept : Token → Except Mismatch α) : Codec α where
  fromText _ bs :=
    match token bs with
    | .error f => .error f
    | .ok (t, rest) => match accept t with
      | .ok a => .ok (.ok a, rest)
      | .error m => .error (.unfit m rest)
  fromValue v := accept v.token

/-- Reads a string, and nothing else is taken for one. -/
def string : Codec String :=
  ofToken fun t => match t with
    | .string s => .ok s
    | t => .error (.invalidType t "a string")

/-- Reads `true` or `false`. -/
def bool : Codec Bool :=
  ofToken fun t => match t with
    | .bool b => .ok b
    | t => .error (.invalidType t "a boolean")

/-- An unsigned number of 64 bits. -/
def word : Codec Nat :=
  ofToken fun t => match t with
    | .number (.integer n) =>
      if 0 ≤ n ∧ n < Nat.pow 2 64 then .ok n.toNat else .error (.invalidValue t "u64")
    | t => .error (.invalidType t "u64")

/-- A thing or `null`. -/
def option {α : Type} (c : Codec α) : Codec (Option α) where
  fromText levels bs :=
    match skipBlanks bs with
    | b :: rest =>
      if b = smallN then
        match Json.word nullRest rest with
        | .error f => .error f
        | .ok rest => .ok (.ok none, rest)
      else (c.map some).fromText levels bs
    | [] => (c.map some).fromText levels bs
  fromValue v :=
    match v with
    | .null => .ok none
    | v => (c.map some).fromValue v

/-- A thing judged by the value it is given as. A mismatch has no place of its own. -/
def ofValue {α : Type} (accept : Value → Except Mismatch α) : Codec α where
  fromText levels bs :=
    match value levels bs with
    | .error f => .error f
    | .ok (v, rest) => .ok (accept v, rest)
  fromValue := accept

end Codec

/-- A field kept in an option of the draft. -/
def Field.of {σ α : Type} (name : String) (aliases : List String) (absence : Absence)
    (codec : Codec α) (get : σ → Option α) (set : α → σ → σ) : Field σ where
  name := name
  aliases := aliases
  absence := absence
  isGiven draft := (get draft).isSome
  codec := codec.map set

/-- What a record does with a field that has no default: without it the record is refused, and the
field named. -/
def given {α : Type} (name : String) : Option α → Except Mismatch α
  | some a => .ok a
  | none => .error (.missingField name)

namespace Shape

variable {σ α : Type}

/-- The record in words. -/
def description (shape : Shape σ α) : String :=
  "struct " ++ shape.title

/-- The record and the number of its elements in words. -/
def lengthDescription (shape : Shape σ α) : String :=
  let count := shape.fields.length
  shape.description ++ " with " ++ toString count ++
    (if count = 1 then " element" else " elements")

/-- The field that a key names. -/
def field? (shape : Shape σ α) (key : String) : Option (Field σ) :=
  shape.fields.find? fun field => field.answersTo key

/-! ## From a text -/

/-- What comes of a part of the record, seen from the record. -/
def within {β : Type} (segment : Segment) (r : Except Fault β) : Except Fault β :=
  match r with
  | .ok b => .ok b
  | .error f => .error (f.inside segment)

/-- The member of a field, read after its key. A fault before the colon is none of the
member. -/
def memberText (levels : Nat) (key : String) (field : Field σ) (bs : List UInt8) :
    Outcome (σ → σ) :=
  match afterColon bs with
  | .error f => .error f
  | .ok rest => within (.key key) (field.codec.fromText levels rest)

/-- The member of a key that nobody wants, read after it. -/
def memberSkip (key : String) (bs : List UInt8) : Except Fault (List UInt8) :=
  match afterColon bs with
  | .error f => .error f
  | .ok rest => within (.key key) (skipValue rest)

/-- The draft after the members of an object, up to its end. -/
def membersText (shape : Shape σ α) (levels : Nat) (first : Bool) (draft : σ) :
    Budget → List UInt8 → Outcome σ
  | [], _ => .error (.at .endInObject [])
  | _ :: steps, bs =>
    match nextKey first bs with
    | .error f => .error f
    | .ok (false, rest) => .ok (.ok draft, rest)
    | .ok (true, rest) => match Json.string rest with
      | .error f => .error f
      | .ok (key, rest) => match shape.field? key with
        | none => match memberSkip key rest with
          | .error f => .error f
          | .ok rest => membersText shape levels false draft steps rest
        | some field =>
          if field.isGiven draft then .ok (.error (.duplicateField field.name), rest)
          else match memberText levels key field rest with
            | .error f => .error f
            | .ok (.error m, rest) => .ok (.error m, rest)
            | .ok (.ok set, rest) => membersText shape levels false (set draft) steps rest

/-- The draft after the elements of an array for the fields from `index` on. -/
def itemsText (shape : Shape σ α) (levels : Nat) (first : Bool) (draft : σ) (index : Nat) :
    List (Field σ) → List UInt8 → Outcome σ
  | [], bs => .ok (.ok draft, bs)
  | field :: fields, bs =>
    match nextItem first bs with
    | .error f => .error f
    | .ok (false, rest) =>
      if field.absence = .defaulted then
        itemsText shape levels first draft (index + 1) fields rest
      else .ok (.error (.invalidLength index shape.lengthDescription), rest)
    | .ok (true, rest) =>
      match within (.index index) (field.codec.fromText levels rest) with
      | .error f => .error f
      | .ok (.error m, rest) => .ok (.error m, rest)
      | .ok (.ok set, rest) =>
        itemsText shape levels false (set draft) (index + 1) fields rest

/-- The record that a draft becomes once its container has ended. A mismatch is placed
where the end was found or missed. -/
def settle (shape : Shape σ α) (draft : Except Mismatch σ) (closing : Closing) :
    Except Fault (α × List UInt8) :=
  match draft.bind shape.finish with
  | .error m => .error (.unfit m closing.2)
  | .ok a => closed a closing

/-- The record at the front. -/
def text (shape : Shape σ α) (levels : Nat) (bs : List UInt8) :
    Except Fault (α × List UInt8) :=
  match skipBlanks bs with
  | [] => .error (.at .endInValue [])
  | b :: rest =>
    if b = openList then
      match levels with
      | 0 => .error (.at .tooDeep (b :: rest))
      | levels + 1 =>
        match shape.itemsText levels true shape.blank 0 shape.fields rest with
        | .error f => .error f
        | .ok (draft, rest) => shape.settle draft (closeItems rest)
    else if b = openObject then
      match levels with
      | 0 => .error (.at .tooDeep (b :: rest))
      | levels + 1 =>
        match shape.membersText levels true shape.blank (budget rest) rest with
        | .error f => .error f
        | .ok (draft, rest) => shape.settle draft (closeMembers rest)
    else match scalar b rest with
      | .error f => .error f
      | .ok (t, rest) => .error (.unfit (.invalidType t shape.description) rest)

/-- The record that a text consists of. -/
def ofBytes (shape : Shape σ α) (bs : List UInt8) : Except Fault α :=
  complete (shape.text nestingLimit bs)

/-! ## From a value -/

/-- The draft after the members of an object. -/
def membersValue (shape : Shape σ α) (draft : σ) :
    List (String × Value) → Except Mismatch σ
  | [] => .ok draft
  | (key, v) :: rest => match shape.field? key with
    | none => membersValue shape draft rest
    | some field =>
      if field.isGiven draft then .error (.duplicateField field.name)
      else match field.codec.fromValue v with
        | .error m => .error m
        | .ok set => membersValue shape (set draft) rest

/-- The draft after the elements of an array for the fields from `index` on, and the
elements left over. -/
def itemsValue (shape : Shape σ α) (draft : σ) (index : Nat) :
    List (Field σ) → List Value → Except Mismatch (σ × List Value)
  | [], vs => .ok (draft, vs)
  | field :: fields, [] =>
    if field.absence = .defaulted then itemsValue shape draft (index + 1) fields []
    else .error (.invalidLength index shape.lengthDescription)
  | field :: fields, v :: vs => match field.codec.fromValue v with
    | .error m => .error m
    | .ok set => itemsValue shape (set draft) (index + 1) fields vs

/-- Reads a record from a value that is already held, by the same fields as from a text. -/
def ofValue (shape : Shape σ α) (v : Value) : Except Mismatch α :=
  match v with
  | .object ms => (shape.membersValue shape.blank ms).bind shape.finish
  | .array vs => match shape.itemsValue shape.blank 0 shape.fields vs with
    | .error m => .error m
    | .ok (draft, left) => match shape.finish draft with
      | .error m => .error m
      | .ok a =>
        if left.isEmpty then .ok a
        else .error (.invalidLength vs.length "fewer elements in array")
  | v => .error (.invalidType v.token shape.description)

/-- A record as a part of another one. -/
def codec (shape : Shape σ α) : Codec α where
  fromText levels bs := (shape.text levels bs).map fun (a, rest) => (.ok a, rest)
  fromValue := shape.ofValue

end Shape

end IdentityGateway.Json
