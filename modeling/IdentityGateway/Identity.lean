import IdentityGateway.Json.Printer
import IdentityGateway.Json.Record
import IdentityGateway.Timestamp.Reader

/-!
# Identities

The user record that an authentication core reports, how it is read from JSON, and the
part of it that is shown to clients.
-/

namespace IdentityGateway

open Json (Value Mismatch Codec Field Shape)

/-- A user's id, kept as the core gives it. -/
inductive UserId where
  | number (n : Int)
  | text (s : String)
  deriving DecidableEq, Repr

namespace UserId

/-- The id as plain text. -/
def display : UserId → String
  | .number n => toString n
  | .text s => s

/-- The id as it is shown to clients. -/
def toJson : UserId → Value
  | .number n => Value.integer n
  | .text s => .string s

/-- An id is a string or an integer of 64 bits with a sign. -/
def ofJson (v : Value) : Except Mismatch UserId :=
  match v with
  | .string s => .ok (.text s)
  | .number (.integer n) =>
    if -(Nat.pow 2 63 : Int) ≤ n ∧ n < Nat.pow 2 63 then .ok (.number n) else refusal
  | _ => refusal
where
  /-- The refusal of every other value. -/
  refusal : Except Mismatch UserId :=
    .error (.refused "data did not match any variant of untagged enum UserId")

/-- How an id is read. -/
def codec : Codec UserId := Codec.ofValue ofJson

end UserId

namespace Timestamp

/-- How a timestamp is read: from a string. -/
def codec : Codec Timestamp :=
  Codec.ofToken fun t => match t with
    | .string s => match ofText s with
      | .ok instant => .ok instant
      | .error e => .error (.refused e.message)
    | t => .error (.invalidType t "an RFC 3339 formatted date and time string")

end Timestamp

/-- A user as the core knows them. -/
structure Identity where
  id : UserId
  email : String
  name : Option String
  emailVerified : Bool
  createdAt : Timestamp
  updatedAt : Timestamp
  /-- Known to the core only, and never shown. -/
  passwordHash : Option String
  deriving DecidableEq, Repr

namespace Identity

/-- The fields of an identity given so far. -/
structure Draft where
  id : Option UserId := none
  email : Option String := none
  name : Option (Option String) := none
  emailVerified : Option Bool := none
  createdAt : Option Timestamp := none
  updatedAt : Option Timestamp := none
  passwordHash : Option (Option String) := none
  deriving DecidableEq, Repr

/-- The identity of a draft, if the fields that have no default are given. -/
def Draft.finish (d : Draft) : Except Mismatch Identity := do
  let id ← Json.given "id" d.id
  let email ← Json.given "email" d.email
  let createdAt ← Json.given "created_at" d.createdAt
  let updatedAt ← Json.given "updated_at" d.updatedAt
  return {
    id, email, createdAt, updatedAt
    name := d.name.getD none
    emailVerified := d.emailVerified.getD false
    passwordHash := d.passwordHash.getD none }

/-- How an identity is read. -/
def shape : Shape Draft Identity where
  title := "Identity"
  blank := {}
  finish := Draft.finish
  fields := [
    .of "id" [] .required UserId.codec Draft.id (fun a d => { d with id := some a }),
    .of "email" [] .required .string Draft.email (fun a d => { d with email := some a }),
    .of "name" [] .defaulted (.option .string) Draft.name
      (fun a d => { d with name := some a }),
    .of "email_verified" ["emailVerified"] .defaulted .bool Draft.emailVerified
      (fun a d => { d with emailVerified := some a }),
    .of "created_at" ["createdAt"] .required Timestamp.codec Draft.createdAt
      (fun a d => { d with createdAt := some a }),
    .of "updated_at" ["updatedAt"] .required Timestamp.codec Draft.updatedAt
      (fun a d => { d with updatedAt := some a }),
    .of "password_hash" [] .defaulted (.option .string) Draft.passwordHash
      (fun a d => { d with passwordHash := some a })]

/-- The identity that a text of JSON consists of. -/
def ofBytes (bs : List UInt8) : Except Json.Fault Identity :=
  shape.ofBytes bs

/-- The members shown to clients. -/
def view (u : Identity) : Value :=
  .object [
    ("id", u.id.toJson),
    ("email", .string u.email),
    ("name", Value.ofText? u.name),
    ("emailVerified", .bool u.emailVerified),
    ("createdAt", .string u.createdAt.text),
    ("updatedAt", .string u.updatedAt.text)]

end Identity

end IdentityGateway
