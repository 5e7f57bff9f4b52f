import IdentityGateway.Json.Printer

/-!
# Errors of fields

Messages about the fields of a request, by field in the order of the names, each field
with its messages in the order they were added. Checks that failed may be kept in a table by
field, which is visited in an order of its own.
-/

namespace IdentityGateway

open Json (Value)

/-- Why a check of a field failed: the code of the check, and a message if there is one. -/
structure CheckFailure where
  code : String
  message : Option String
  deriving DecidableEq, Repr

/-- What is said of a failed check: without a message it is the code. -/
def CheckFailure.text (failure : CheckFailure) : String :=
  failure.message.getD failure.code

/-- Messages under the names of the fields they are about. They are only ever added through `add`,
which keeps the names in order and apart. -/
structure FieldErrors where
  entries : List (String × List String)
  deriving DecidableEq, Repr

namespace FieldErrors

/-- The errors to which the messages of failed checks are added. -/
def empty : FieldErrors := ⟨[]⟩

/-- The entries with one more message about a field. -/
def insert (field message : String) :
    List (String × List String) → List (String × List String)
  | [] => [(field, [message])]
  | (name, messages) :: rest =>
    if name = field then (name, messages ++ [message]) :: rest
    else if field < name then (field, [message]) :: (name, messages) :: rest
    else (name, messages) :: insert field message rest

/-- The errors with one more message about a field. -/
def add (errors : FieldErrors) (field message : String) : FieldErrors :=
  ⟨insert field message errors.entries⟩

/-- Whether nothing has been found wrong, so that the request may go on. -/
def isEmpty (errors : FieldErrors) : Bool :=
  errors.entries.isEmpty

/-- The messages about a field. -/
def get? (errors : FieldErrors) (field : String) : Option (List String) :=
  (errors.entries.find? fun e => e.1 == field).map (·.2)

/-- The errors of messages about fields, added one after another. -/
def ofMessages (messages : List (String × String)) : FieldErrors :=
  messages.foldl (fun errors m => errors.add m.1 m.2) empty

/-- The errors of a table of failed checks, in the order in which its fields are visited. -/
def ofTable (table : List (String × List CheckFailure)) : FieldErrors :=
  table.foldl (fun errors entry =>
    entry.2.foldl (fun errors failure => errors.add entry.1 failure.text) errors) empty

/-- One message about one field. -/
def single (field message : String) : FieldErrors :=
  empty.add field message

/-- The fields with their messages. -/
def toJson (errors : FieldErrors) : Value :=
  .object (errors.entries.map fun (field, messages) => (field, .array (messages.map .string)))

end FieldErrors

end IdentityGateway
