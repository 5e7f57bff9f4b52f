import IdentityGateway.Proofs.Account.Forms
import IdentityGateway.Proofs.FieldErrors
import IdentityGateway.Proofs.Gateway.Body

/-!
# What is told of a body

A body that is not declared as JSON, or is not read as the record that is expected, is told as an
error of the body. Of a record that is read, the client is told every demand that it does not meet,
each under its field and in its one message. Without such a fault the record is handed on as it was
read.
-/

namespace IdentityGateway

open Http (Request)
open Json (Value)

/-! ## Faults -/

/-- What is wrong with a request to log in: a field, and a message about it. -/
inductive LoginRequest.Fault (request : LoginRequest) : String → String → Prop
  | email (h : EmailAddress.isValid request.email = false) :
      Fault request "email" "Email is invalid"
  | password (h : request.password.length < 1) :
      Fault request "password" "Password is required"

/-- What is wrong with a request to create an account. -/
inductive RegisterRequest.Fault (request : RegisterRequest) : String → String → Prop
  | email (h : EmailAddress.isValid request.email = false) :
      Fault request "email" "Email is invalid"
  | password (h : request.password.length < 8) :
      Fault request "password" "Password must be at least 8 characters"
  | name {name : String} (hgiven : request.name = some name) (h : 100 < name.length) :
      Fault request "name" "Name must be at most 100 characters"

/-- What is wrong with a request for new tokens. -/
inductive RefreshRequest.Fault (request : RefreshRequest) : String → String → Prop
  | refreshToken (h : request.refreshToken.length < 1) :
      Fault request "refresh_token" "Refresh token is required"

section

variable {field message : String}

/-- The check of an email address fails with its message if the address is not valid. -/
theorem Check.failed_eq_email_iff {address : String} :
    (⟨field, false, message⟩ : Check) = .email address ↔
      EmailAddress.isValid address = false ∧ field = "email" ∧ message = "Email is invalid" := by
  rw [Check.email, Check.mk.injEq]
  exact ⟨fun ⟨hfield, hfails, hmessage⟩ => ⟨hfails.symm, hfield, hmessage⟩,
    fun ⟨hfails, hfield, hmessage⟩ => ⟨hfield, hfails.symm, hmessage⟩⟩

/-- The checks of a request to log in that fail are its faults. -/
theorem LoginRequest.mem_checks_iff {request : LoginRequest} :
    ⟨field, false, message⟩ ∈ checks request ↔ Fault request field message := by
  simp only [checks, List.mem_cons, List.not_mem_nil, or_false, Check.failed_eq_email_iff,
    Check.mk.injEq, eq_comm (a := false), decide_eq_false_iff_not, Nat.not_le]
  constructor
  · rintro (⟨h, rfl, rfl⟩ | ⟨rfl, h, rfl⟩)
    · exact .email h
    · exact .password h
  · rintro (h | h)
    · exact .inl ⟨h, rfl, rfl⟩
    · exact .inr ⟨rfl, h, rfl⟩

/-- The checks of a request to create an account that fail are its faults. -/
theorem RegisterRequest.mem_checks_iff {request : RegisterRequest} :
    ⟨field, false, message⟩ ∈ checks request ↔ Fault request field message := by
  have hname : (request.name.all fun name => decide (name.length ≤ 100)) = false ↔
      ∃ name, request.name = some name ∧ 100 < name.length := by
    cases request.name <;> simp
  simp only [checks, List.mem_cons, List.not_mem_nil, or_false, Check.failed_eq_email_iff,
    Check.mk.injEq, eq_comm (a := false), hname, decide_eq_false_iff_not, Nat.not_le]
  constructor
  · rintro (⟨h, rfl, rfl⟩ | ⟨rfl, h, rfl⟩ | ⟨rfl, ⟨name, hgiven, h⟩, rfl⟩)
    · exact .email h
    · exact .password h
    · exact .name hgiven h
  · rintro (h | h | ⟨hgiven, h⟩)
    · exact .inl ⟨h, rfl, rfl⟩
    · exact .inr (.inl ⟨rfl, h, rfl⟩)
    · exact .inr (.inr ⟨rfl, ⟨_, hgiven, h⟩, rfl⟩)

/-- The check of a request for new tokens that fails is its fault. -/
theorem RefreshRequest.mem_checks_iff {request : RefreshRequest} :
    ⟨field, false, message⟩ ∈ checks request ↔ Fault request field message := by
  simp only [checks, List.mem_singleton, Check.mk.injEq, eq_comm (a := false),
    decide_eq_false_iff_not, Nat.not_le]
  constructor
  · rintro ⟨rfl, h, rfl⟩
    exact .refreshToken h
  · rintro ⟨h⟩
    exact ⟨rfl, h, rfl⟩

end

/-! ## What is told -/

/-- A client is told of faults: the request is a bad one, and every field with a fault is given in
the order of the names, with its one message. -/
structure RequestFailure.Tells (failure : RequestFailure) (Fault : String → String → Prop) :
    Prop where
  status : failure.status = 400
  body : ∃ fields : List (String × Value),
    failure.body =
      .object [("message", .string "Validation failed"), ("errors", .object fields)] ∧
    (fields.Pairwise fun a b => a.1 < b.1) ∧
    ∀ field told, (field, told) ∈ fields ↔
      ∃ message, told = .array [.string message] ∧ Fault field message

/-- Errors in order with one message a field are told. -/
theorem RequestFailure.tells_ofErrors {errors : FieldErrors} {Fault : String → String → Prop}
    (hordered : FieldErrors.Ordered errors.entries)
    (hmem : ∀ field messages, (field, messages) ∈ errors.entries ↔
      ∃ message, messages = [message] ∧ Fault field message) :
    (ofErrors errors).Tells Fault := by
  refine ⟨rfl, _, rfl, List.pairwise_map.mpr hordered, fun field told => ?_⟩
  simp only [List.mem_map, Prod.exists, hmem, Prod.mk.injEq]
  constructor
  · rintro ⟨_, _, ⟨message, rfl, hfault⟩, rfl, rfl⟩
    exact ⟨message, rfl, hfault⟩
  · rintro ⟨message, rfl, hfault⟩
    exact ⟨field, [message], ⟨message, rfl, hfault⟩, rfl, rfl⟩

namespace Gateway.Body

/-- What becomes of a request for a record: `ReadFrom` says which record a body is, and `Fault` what
is wrong with a record. -/
structure Judged {α : Type} (ReadFrom : List UInt8 → α → Prop)
    (Fault : α → String → String → Prop) (request : Request)
    (outcome : Except RequestFailure α) : Prop where
  /-- A body that is not declared as JSON, or not a record, is told in one message. -/
  unread : ¬ (isDeclaredAsJson request.headers = true ∧ ∃ a, ReadFrom request.body a) →
    ∃ failure message, outcome = .error failure ∧
      failure.Tells fun field told => field = "body" ∧ told = message
  /-- A record is handed on exactly if it was read and has no fault. -/
  accepted : ∀ a, outcome = .ok a ↔ isDeclaredAsJson request.headers = true ∧
    ReadFrom request.body a ∧ ∀ field message, ¬ Fault a field message
  /-- The faults of a record that was read are told, and nothing else. -/
  refused : ∀ a, isDeclaredAsJson request.headers = true → ReadFrom request.body a →
    (∃ field message, Fault a field message) →
    ∃ failure, outcome = .error failure ∧ failure.Tells (Fault a)

section

variable {α : Type} {kind : RequestKind α} {request : Request} {a : α}

/-- A body without a declared length is read to the limit. -/
theorem readLimit_eq (hlength : request.headers.first? "content-length" = none) :
    readLimit request.headers = limit := by
  rw [readLimit, declaredLength?, hlength]
  exact Nat.min_self limit

/-- One message about the body is told as that. -/
theorem tells_failure (input : List UInt8) (refusal : Refusal) :
    (refusal.failure input).Tells fun field told =>
      field = "body" ∧ told = refusal.message input := by
  refine RequestFailure.tells_ofErrors (List.pairwise_singleton _ _) fun field messages => ?_
  change (field, messages) ∈ [("body", [refusal.message input])] ↔ _
  rw [List.mem_singleton, Prod.mk.injEq]
  constructor
  · rintro ⟨rfl, rfl⟩
    exact ⟨_, rfl, rfl, rfl⟩
  · rintro ⟨message, rfl, rfl, rfl⟩
    exact ⟨rfl, rfl⟩

/-- A record that is read and fails a check is told with the errors of its checks. -/
theorem checked_eq_error (hread : read kind request = .ok a)
    (hfails : ∃ check ∈ kind.checks a, check.holds = false) :
    checked kind request = .error (.ofErrors (Check.errors (kind.checks a))) := by
  have hsome : ¬ (Check.errors (kind.checks a)).isEmpty = true := by
    rw [Check.isEmpty_errors_iff]
    intro hall
    obtain ⟨check, hcheck, hholds⟩ := hfails
    cases hholds.symm.trans (hall check hcheck)
  simp only [checked, hread]
  exact if_neg hsome

/-- Requests for records of a kind are judged if the kind reads and checks what it should. -/
theorem judged_checked {ReadFrom : List UInt8 → α → Prop} {Fault : α → String → String → Prop}
    (hreads : ∀ {bs a}, kind.shape.ofBytes bs = .ok a ↔ ReadFrom bs a)
    (hchecks : ∀ {a field message}, ⟨field, false, message⟩ ∈ kind.checks a ↔ Fault a field message)
    (hseparate : ∀ a, Check.Separate (kind.checks a))
    (hlength : request.headers.first? "content-length" = none)
    (hwithin : request.body.length ≤ limit) :
    Judged ReadFrom Fault request (checked kind request) := by
  have hread : ∀ {a}, read kind request = .ok a ↔
      isDeclaredAsJson request.headers = true ∧ ReadFrom request.body a := by
    intro a
    rw [read_eq_ok_iff, readLimit_eq hlength, hreads, and_iff_right hwithin]
  have hfault : ∀ a, (∃ check ∈ kind.checks a, check.holds = false) ↔
      ∃ field message, Fault a field message := by
    intro a
    constructor
    · rintro ⟨⟨field, holds, message⟩, hmem, rfl⟩
      exact ⟨field, message, hchecks.mp hmem⟩
    · rintro ⟨field, message, h⟩
      exact ⟨_, hchecks.mpr h, rfl⟩
  constructor
  case unread =>
    intro hunread
    cases houtcome : read kind request with
    | ok a =>
      obtain ⟨hjson, h⟩ := hread.mp houtcome
      exact absurd ⟨hjson, a, h⟩ hunread
    | error refusal =>
      refine ⟨refusal.failure request.body, refusal.message request.body, ?_, tells_failure _ _⟩
      rw [checked, houtcome]
  case accepted =>
    intro a
    have hvalid : (∀ check ∈ kind.checks a, check.holds = true) ↔
        ∀ field message, ¬ Fault a field message := by
      have hnone := not_congr (hfault a)
      push Not at hnone
      simpa only [Bool.not_eq_false] using hnone
    rw [checked_eq_ok_iff, ← hvalid, ← and_assoc, ← hread, read_eq_ok_iff]
    exact ⟨fun h => ⟨⟨h.declared, h.within, h.decoded⟩, h.valid⟩,
      fun h => ⟨h.1.1, h.1.2.1, h.1.2.2, h.2⟩⟩
  case refused =>
    intro a hjson h hfaulty
    have herror := checked_eq_error (hread.mpr ⟨hjson, h⟩) ((hfault a).mpr hfaulty)
    refine ⟨_, herror, RequestFailure.tells_ofErrors (Check.ordered_errors _) ?_⟩
    intro field messages
    simp only [Check.mem_errors_iff (hseparate a), hchecks]

end

/-- **What is told of bodies.** Of a request without a declared length whose body is within the
limit, a body that is no record is told in one message, a record without a fault is handed on, and
otherwise all faults of the record are told. -/
theorem judged_of_within {request : Request}
    (hlength : request.headers.first? "content-length" = none)
    (hwithin : request.body.length ≤ 1024 * 1024) :
    Judged RegisterRequest.ReadFrom RegisterRequest.Fault request
      (checked RegisterRequest.kind request) ∧
    Judged LoginRequest.ReadFrom LoginRequest.Fault request (checked LoginRequest.kind request) ∧
    Judged RefreshRequest.ReadFrom RefreshRequest.Fault request
      (checked RefreshRequest.kind request) := by
  refine ⟨?_, ?_, ?_⟩
  · exact judged_checked RegisterRequest.ofBytes_eq_ok_iff RegisterRequest.mem_checks_iff
      (fun _ => by simp [RegisterRequest.kind, RegisterRequest.checks, Check.Separate, Check.email])
      hlength hwithin
  · exact judged_checked LoginRequest.ofBytes_eq_ok_iff LoginRequest.mem_checks_iff
      (fun _ => by simp [LoginRequest.kind, LoginRequest.checks, Check.Separate, Check.email])
      hlength hwithin
  · exact judged_checked RefreshRequest.ofBytes_eq_ok_iff RefreshRequest.mem_checks_iff
      (fun _ => List.pairwise_singleton _ _) hlength hwithin

/-- A posted body that is declared as JSON. -/
def posted (body : String) : Request where
  method := "POST"
  path := "/"
  headers := [("content-type", Http.asciiBytes "application/json")]
  body := Text.utf8 body.toList

/-- A short password in a list without a name is told as a body that cannot be read, and in an
object, where the email address is left out, as two faults. A list with `null` for the name is
accepted. -/
theorem judged_of_within_accounts :
    (∃ failure message,
      checked RegisterRequest.kind (posted "[\"ada@x.org\",\"sieben7\"]") = .error failure ∧
      failure.Tells fun field told => field = "body" ∧ told = message) ∧
    (∃ failure,
      checked RegisterRequest.kind (posted "\x7b\"password\":\"sieben7\"\x7d") = .error failure ∧
      failure.Tells (RegisterRequest.Fault ⟨"", "sieben7", none⟩)) ∧
    checked RegisterRequest.kind (posted "[\"ada@x.org\",\"zwölf zwölf\",null]") =
      .ok ⟨"ada@x.org", "zwölf zwölf", none⟩ := by
  have hjudged : ∀ body, (posted body).body.length ≤ 1024 * 1024 →
      Judged RegisterRequest.ReadFrom RegisterRequest.Fault (posted body)
        (checked RegisterRequest.kind (posted body)) :=
    fun body hwithin => (@judged_of_within (posted body) rfl hwithin).1
  refine ⟨?_, ?_, ?_⟩
  · refine (hjudged _ (by decide +kernel)).unread ?_
    rintro ⟨-, a, ha⟩
    have hread := RegisterRequest.ofBytes_eq_ok_iff.mpr ha
    have herror : (RegisterRequest.shape.ofBytes
        (posted "[\"ada@x.org\",\"sieben7\"]").body).isOk = false := by decide +kernel
    rw [hread] at herror
    cases herror
  · refine (hjudged _ (by decide +kernel)).refused _ (by decide +kernel) ?_
      ⟨_, _, .password (by decide)⟩
    exact RegisterRequest.ofBytes_eq_ok_iff.mp (by decide +kernel)
  · refine ((hjudged _ (by decide +kernel)).accepted _).mpr ⟨by decide +kernel, ?_, ?_⟩
    · exact RegisterRequest.ofBytes_eq_ok_iff.mp (by decide +kernel)
    · rintro field message (h | h | ⟨hgiven, -⟩)
      · exact absurd h (by decide +kernel)
      · exact absurd h (by decide)
      · cases hgiven

end Gateway.Body

end IdentityGateway
