import IdentityGateway.Proofs.EmailAddress
import IdentityGateway.Proofs.Gateway.Questions
import IdentityGateway.Proofs.Json.Values

/-!
# Addresses that reach the core

Every email address in a call of a served request has passed the check of its body and is split at
its last at sign, within the limits of both parts. It has no blank and no control character, except
where the check misses them: in front of an IP address in brackets.
-/

namespace IdentityGateway

/-- The address that a call hands to the core. Look-ups and refreshes have none. -/
def Call.email? : Call → Option String
  | .lookup _ => none
  | .grant (.login email _) => some email
  | .grant (.register account) => some account.email
  | .grant (.refresh _) => none

namespace Gateway

open EmailAddress (HidesStray Splits)
open Http (FieldValue Request)
open Json (Value)
open Text (isStray)

section

variable {σ : Type} {cookieName : String} {request : Request} {call : Call} {email : String}

/-- The address of an accepted login request is accepted. -/
theorem isValid_of_accepts_login {body : LoginRequest}
    (h : Body.Accepts LoginRequest.kind request body) : EmailAddress.isValid body.email = true :=
  h.valid (.email body.email) (by simp [LoginRequest.kind, LoginRequest.checks])

/-- The address of an accepted registration is accepted. -/
theorem isValid_of_accepts_register {body : RegisterRequest}
    (h : Body.Accepts RegisterRequest.kind request body) :
    EmailAddress.isValid body.email = true :=
  h.valid (.email body.email) (by simp [RegisterRequest.kind, RegisterRequest.checks])

/-- The address in a call that is prompted is accepted. -/
theorem Prompts.isValid (h : Prompts cookieName request call) (hemail : call.email? = some email) :
    EmailAddress.isValid email = true := by
  cases h with
  | me path method found => cases hemail
  | session path method found => cases hemail
  | login path method accepted =>
    have hvalid := isValid_of_accepts_login accepted
    rw [← Option.some.inj hemail, EmailAddress.trim_eq_of_isValid hvalid]
    exact hvalid
  | register path method accepted =>
    have hvalid := isValid_of_accepts_register accepted
    rw [← Option.some.inj hemail, RegisterRequest.account, EmailAddress.trim_eq_of_isValid hvalid]
    exact hvalid
  | refresh path method accepted => cases hemail

/-- **Addresses.** An email address that a served request hands to the core is split at its last at
sign into a local part of 1 to 64 characters and a domain of 1 to 255. There is no blank and no
control character in it, unless its domain ends with an IP address in brackets, as it is or once it
is in ASCII, and has them before the brackets. -/
theorem exists_splits_of_call (service : Service) (core : Core σ) (moment : Moment)
    (freshId : FieldValue) (request : Request) (s : σ) {call : Call} {email : String}
    (hcall : call ∈ (serve service core moment freshId request s).calls)
    (hemail : call.email? = some email) :
    ∃ name domain, Splits email name domain ∧ (∀ c ∈ name, isStray c = false) ∧
      ((∀ c ∈ domain, isStray c = false) ∨ HidesStray domain ∨
        ∃ ascii, Host.ascii? domain = some ascii ∧ HidesStray ascii) := by
  rw [serve_calls, Option.mem_toList, question_eq_some_iff] at hcall
  exact EmailAddress.exists_splits_of_isValid (hcall.2.isValid hemail)

end

/-! ## Two logins -/

/-- The request that a client makes of an address and a password when it logs in. -/
def loginRequest (email password : String) : Request where
  method := "POST"
  path := "/api/v1/auth/login"
  headers := [("content-type", Http.asciiBytes "application/json")]
  body := (Value.object [("email", .string email), ("password", .string password)]).bytes

/-- An address at a name of two labels is handed to the core. -/
theorem exists_splits_of_loginRequest :
    .grant (.login "ada@x.org" "secret") ∈ (serve cookieService (Scripted.core slowScript)
      firstMoment [] (loginRequest "ada@x.org" "secret") {}).calls ∧
    ∃ name domain, Splits "ada@x.org" name domain ∧ (∀ c ∈ name, isStray c = false) ∧
      ((∀ c ∈ domain, isStray c = false) ∨ HidesStray domain ∨
        ∃ ascii, Host.ascii? domain = some ascii ∧ HidesStray ascii) := by
  have hcall : .grant (.login "ada@x.org" "secret") ∈ (serve cookieService
      (Scripted.core slowScript) firstMoment [] (loginRequest "ada@x.org" "secret") {}).calls := by
    decide +kernel
  exact ⟨hcall, exists_splits_of_call cookieService (Scripted.core slowScript) firstMoment []
    (loginRequest "ada@x.org" "secret") {} hcall rfl⟩

/-- An address with a line break before an IP address in brackets is handed to the core, too. -/
theorem line_break_in_call :
    .grant (.login "a@ \r\n[1.2.3.4]" "secret") ∈ (serve cookieService (Scripted.core slowScript)
      firstMoment [] (loginRequest "a@ \r\n[1.2.3.4]" "secret") {}).calls ∧
    ∃ c ∈ "a@ \r\n[1.2.3.4]".toList, isStray c = true :=
  ⟨by decide +kernel, '\n', by decide, rfl⟩

end Gateway

end IdentityGateway
