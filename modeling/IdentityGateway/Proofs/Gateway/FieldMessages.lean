import IdentityGateway.Gateway.Routes
import IdentityGateway.Proofs.FieldErrors
import IdentityGateway.Proofs.Json.MemberOrder
import IdentityGateway.Proofs.Text.ByteOrder

/-!
# How messages about fields are told

Messages about fields are told in the body of the response. Its text names every field that there
are messages about, in the order of the bytes of the names, with all messages about the field in the
order they were added. It is the same text however messages about different fields were mixed, and
in whatever order a table of failed checks was visited.
-/

namespace IdentityGateway.Gateway

open FieldErrors (Ordered about ofMessages ofTable said)
open Http (Response)
open Json (Value ValueText)

/-- Fields with their messages, as they are told. -/
def listed (fields : List (String × List String)) : Value :=
  .object (fields.map fun f => (f.1, .array (f.2.map .string)))

/-- A response tells fields with their messages: its body is a text with the fields in the order of
the bytes of their names, and is read as what the text says. -/
structure Itemizes (response : Response) (fields : List (String × List String)) : Prop where
  status : response.status = 400
  ordered : fields.Pairwise fun a b => a.1.toUTF8.toList < b.1.toUTF8.toList
  written : ValueText response.body.toUTF8.toList
    (.object [("message", .string "Validation failed"), ("errors", listed fields)])
  read : Value.ofBytes response.body.toUTF8.toList =
    .ok (.object [("errors", listed fields), ("message", .string "Validation failed")])

section

variable {fields : List (String × List String)} {errors : FieldErrors} {levels : Nat}

/-- Fields with their messages are a value with two containers. -/
theorem faithful_listed (fields : List (String × List String)) :
    (listed fields).Faithful (levels + 2) := by
  refine .object (List.forall_mem_map.mpr fun f _ => .array ?_)
  exact List.forall_mem_map.mpr fun text _ => .scalar (.string text)

/-- Fields in the order of their names are held as they are told. -/
theorem held_listed (hordered : Ordered fields) : (listed fields).held = listed fields := by
  have hmembers : ∀ m ∈ fields.map fun f => (f.1, Value.array (f.2.map .string)),
      m.2.held = m.2 := by
    refine List.forall_mem_map.mpr fun f _ => ?_
    have hitems : ∀ v ∈ f.2.map Value.string, v.held = v :=
      List.forall_mem_map.mpr fun text _ => (Value.Scalar.string text).held_eq
    rw [Value.held, Value.heldItems_eq_self hitems]
  have hkeys : (fields.map fun f => (f.1, Value.array (f.2.map .string))).Pairwise
      fun a b => a.1 < b.1 :=
    List.pairwise_map.mpr hordered
  rw [listed, Value.held, Value.heldMembers_eq_append hkeys hmembers, List.nil_append]

/-- Errors in order are told with their fields and messages. -/
theorem itemizes_ofErrors (hordered : Ordered errors.entries) :
    Itemizes (failureResponse (.ofErrors errors)) errors.entries := by
  have hbody : (failureResponse (.ofErrors errors)).body.toUTF8.toList =
      (Value.object [("message", .string "Validation failed"),
        ("errors", listed errors.entries)]).bytes :=
    Value.toList_toUTF8_text _
  have hfaithful : (Value.object [("message", .string "Validation failed"),
      ("errors", listed errors.entries)]).Faithful Json.nestingLimit := by
    refine .object ?_
    simp only [List.forall_mem_cons, List.not_mem_nil, false_implies, implies_true, and_true]
    exact ⟨.scalar (.string _), faithful_listed errors.entries⟩
  constructor
  case status => rfl
  case ordered => exact hordered.imp Text.toList_toUTF8_lt_iff.mpr
  case written =>
    rw [hbody]
    exact hfaithful.valueText
  case read =>
    have hheld : (Value.object [("message", .string "Validation failed"),
        ("errors", listed errors.entries)]).held =
        .object [("errors", (listed errors.entries).held),
          ("message", .string "Validation failed")] := rfl
    rw [hbody, hfaithful.ofBytes_bytes, hheld, held_listed hordered]

end

/-- **Messages about fields.** Those about a field are looked up for it, in the order they were
added, and there are errors as soon as there is a message. The response tells exactly the fields
with messages, each with all of its own. It is the same response if messages about different fields
are mixed in another way, and if they are what a table of failed checks says, which has each field
once, in whatever order the table is visited. -/
theorem messages_told (messages : List (String × String)) :
    (∀ field, (ofMessages messages).get? field =
      if about field messages = [] then none else some (about field messages)) ∧
    ((ofMessages messages).isEmpty = true ↔ messages = []) ∧
    (∃ fields, Itemizes (failureResponse (.ofErrors (ofMessages messages))) fields ∧
      ∀ field texts, (field, texts) ∈ fields ↔ texts = about field messages ∧ texts ≠ []) ∧
    (∀ mixed, (∀ field, about field mixed = about field messages) →
      failureResponse (.ofErrors (ofMessages mixed)) =
        failureResponse (.ofErrors (ofMessages messages))) ∧
    ∀ table visited, (table.map (·.1)).Nodup → visited.Perm table →
      (∀ field, about field (said table) = about field messages) →
      failureResponse (.ofErrors (ofTable visited)) =
        failureResponse (.ofErrors (ofMessages messages)) := by
  refine ⟨FieldErrors.get?_ofMessages messages, FieldErrors.isEmpty_ofMessages_iff, ?_, ?_, ?_⟩
  · exact ⟨_, itemizes_ofErrors (FieldErrors.ordered_ofMessages messages),
      fun _ _ => FieldErrors.mem_ofMessages_iff⟩
  · intro mixed hmixed
    rw [FieldErrors.ofMessages_congr hmixed]
  · intro table visited hkeys hvisited hsaid
    rw [FieldErrors.ofTable_eq_of_perm hkeys hvisited hsaid]

/-! ## A table in two orders -/

/-- Three messages about two fields, with characters that are escaped. The names are in another
order as UTF-16. -/
def sampleMessages : List (String × String) :=
  [("😀", "\"\\\u0001"), ("\uffff", "length"), ("😀", "")]

/-- Failed checks of these fields, one of them without a message. -/
def sampleTable : List (String × List CheckFailure) :=
  [("\uffff", [⟨"length", none⟩]), ("😀", [⟨"email", some "\"\\\u0001"⟩, ⟨"range", some ""⟩])]

/-- The three messages are looked up by their fields, and told in the same text if they are mixed as
the table has them, and if the table is visited from its end. -/
theorem messages_told_mixed :
    (ofMessages sampleMessages).get? "😀" = some ["\"\\\u0001", ""] ∧
    failureResponse (.ofErrors (ofMessages (said sampleTable))) =
      failureResponse (.ofErrors (ofMessages sampleMessages)) ∧
    failureResponse (.ofErrors (ofTable sampleTable.reverse)) =
      failureResponse (.ofErrors (ofMessages sampleMessages)) ∧
    (failureResponse (.ofErrors (ofMessages sampleMessages))).body =
      "\x7b\"message\":\"Validation failed\",\"errors\":\x7b" ++
        "\"\uffff\":[\"length\"],\"😀\":[\"\\\"\\\\\\u0001\",\"\"]\x7d\x7d" := by
  have hsaid : ∀ field, about field (said sampleTable) = about field sampleMessages := by
    intro field
    by_cases hface : "😀" = field
    · subst hface
      decide
    · simp [about, said, sampleTable, sampleMessages, CheckFailure.text, List.filter_cons, hface]
  have hkeys : (sampleTable.map (·.1)).Nodup := by decide
  obtain ⟨hget, -, -, hmixed, htable⟩ := messages_told sampleMessages
  refine ⟨(hget "😀").trans (by decide), hmixed _ hsaid, ?_, by decide +kernel⟩
  exact htable sampleTable sampleTable.reverse hkeys sampleTable.reverse_perm hsaid

end IdentityGateway.Gateway
