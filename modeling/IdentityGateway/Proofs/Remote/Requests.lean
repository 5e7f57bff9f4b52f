import IdentityGateway.Core.Remote
import IdentityGateway.Proofs.History
import IdentityGateway.Proofs.Json.Parsing
import IdentityGateway.Proofs.Json.Values
import IdentityGateway.Proofs.Url

/-!
# Requests to a remote core

A call of a remote core is one POST to the path of its operation behind the base address, where
slashes at the end of the base address do not matter, and the body is read as the arguments of the
call. Only an address that is too long for requests is not sent to.
-/

namespace IdentityGateway.Remote

open Json (Value)

/-! ## What is sent -/

/-- A way that keeps the requests in the order in which they are sent. -/
def Transport.recording {τ : Type} (transport : Transport τ) : Transport (τ × List Request) where
  deliver request state :=
    let (delivery, after) := transport.deliver request state.1
    (delivery, (after, state.2 ++ [request]))

/-- The requests that a core at a base address sends for a call. -/
def sent {τ : Type} (transport : Transport τ) (base : String) (moment : Moment) (call : Call)
    (state : τ) : List Request :=
  ((core transport.recording base).reply moment call (state, [])).2.2

/-- The operation that a call asks for, and the body that it brings. -/
def asked : Call → Operation × Value
  | .lookup token => (.lookup, lookupBody token)
  | .grant request => grantBody request

/-- The request that brings a body to an operation, unless the address takes none. -/
def requests (base : String) (operation : Operation) (body : Value) : List Request :=
  match Url.ofText? (address base operation) with
  | none => []
  | some url => if url.takesRequests then [request base operation body] else []

/-! ## What is to be sent -/

/-- The path that a call goes to, and the members of the body that it brings. -/
def contract : Call → String × List (String × Value)
  | .lookup token => ("/lookup", [("token", .string token)])
  | .grant (.login email password) =>
    ("/login", [("email", .string email), ("password", .string password)])
  | .grant (.register account) =>
    ("/register", [
      ("email", .string account.email),
      ("password", .string account.password),
      ("name", account.name.elim .null .string)])
  | .grant (.refresh token) => ("/refresh", [("refresh_token", .string token)])

/-- A request brings a call to a core: a POST to its path behind the base address, with a body of
JSON that is read as an object of the arguments and nothing else. -/
structure Request.Brings (r : Request) (stem : String) (call : Call) : Prop where
  method : r.method = "POST"
  url : r.url = stem ++ (contract call).1
  contentType : r.contentType = "application/json"
  body : ∃ members, Value.ofBytes r.body.toUTF8.toList = .ok (.object members) ∧
    members.Perm (contract call).2

/-- A base address: one without query, fragment, blanks and controls, and whose host has no
character that hosts in requests may not have. -/
structure IsBase (base : String) (url : Url) : Prop where
  parsed : Url.ofText? base = some url
  clean : Url.IsClean base.toList
  query : url.query = none
  fragment : url.fragment = none
  host : ∀ c ∈ url.host, Url.isSendable c = true

/-- The slashes that the base address of a core may end with. -/
def slashes (n : Nat) : String :=
  String.ofList (List.replicate n '/')

/-- A core is said to be unavailable. -/
inductive SaysUnavailable : IdentityGateway.Reply → Prop
  | identity (detail : String) : SaysUnavailable (.identity (.error (.unavailable detail)))
  | grant (detail : String) : SaysUnavailable (.grant (.error (.unavailable detail)))

section

variable {τ : Type} {transport : Transport τ} {base stem : String} {operation : Operation}
  {body : Value} {state : τ} {moment : Moment} {call : Call} {url : Url} {k : Nat}

/-! ## Recordings -/

/-- Keeping the requests changes nothing else. -/
theorem send_recording (transport : Transport τ) (base : String) (operation : Operation)
    (body : Value) (state : τ) (earlier : List Request) :
    send transport.recording base operation body (state, earlier) =
      ((send transport base operation body state).1,
        (send transport base operation body state).2, earlier ++ requests base operation body) := by
  unfold send requests
  cases Url.ofText? (address base operation) with
  | none => simp
  | some url =>
    cases htakes : url.takesRequests with
    | false => simp [htakes]
    | true =>
      simp only [htakes, if_true, Transport.recording]
      cases (transport.deliver (request base operation body) state).1.1 <;> rfl

/-- A call sends what brings its body to its operation, and is answered as without a record. -/
theorem reply_recording (transport : Transport τ) (base : String) (moment : Moment) (call : Call)
    (state : τ) (earlier : List Request) :
    (core transport.recording base).reply moment call (state, earlier) =
      (((core transport base).reply moment call state).1,
        ((core transport base).reply moment call state).2,
        earlier ++ requests base (asked call).1 (asked call).2) := by
  cases call <;> simp only [Core.reply, core, asked, send_recording]

/-- The requests of a call. -/
theorem sent_eq : sent transport base moment call state =
    requests base (asked call).1 (asked call).2 := by
  rw [sent, reply_recording, List.nil_append]

/-! ## Slashes at the end -/

/-- Nothing is dropped from before an element that is not dropped. -/
theorem rdropWhile_append {α : Type} {p : α → Bool} {front : List α}
    (h : front.rdropWhile p = front) (back : List α) :
    (front ++ back).rdropWhile p = front ++ back.rdropWhile p := by
  induction back using List.reverseRecOn with
  | nil => rw [List.append_nil, h, List.rdropWhile_nil, List.append_nil]
  | append_singleton back a ih =>
    rw [← List.append_assoc, List.rdropWhile_concat, List.rdropWhile_concat, ih]
    split <;> simp only [List.append_assoc]

/-- Nothing but slashes is taken from the end of a base address, and all of them. -/
theorem rdropWhile_slashes (hstem : stem.toList.getLast? ≠ some '/') (n : Nat) :
    (stem ++ slashes n).toList.rdropWhile (· == '/') = stem.toList := by
  have hkeep : stem.toList.rdropWhile (· == '/') = stem.toList := by
    rw [List.rdropWhile_eq_self_iff]
    intro hne hlast
    exact hstem (by rw [List.getLast?_eq_some_getLast hne, beq_iff_eq.mp hlast])
  have hslashes : (List.replicate n '/').rdropWhile (· == '/') = [] := by
    rw [List.rdropWhile_eq_nil_iff]
    exact fun c hc => beq_iff_eq.mpr (List.eq_of_mem_replicate hc)
  rw [String.toList_append, slashes, String.toList_ofList, rdropWhile_append hkeep, hslashes,
    List.append_nil]

/-- A base address without the slashes at its end. -/
theorem trimmedBase_append_slashes (hstem : stem.toList.getLast? ≠ some '/') (n : Nat) :
    trimmedBase (stem ++ slashes n) = stem := by
  change String.ofList ((stem ++ slashes n).toList.rdropWhile (· == '/')) = stem
  rw [rdropWhile_slashes hstem, String.ofList_toList]

private theorem append_slashes (stem : String) (k n : Nat) :
    stem ++ slashes k ++ slashes n = stem ++ slashes (k + n) := by
  apply String.toList_injective
  simp only [String.toList_append, slashes, String.toList_ofList, List.append_assoc,
    List.replicate_append_replicate]

/-- A core depends on its base address only up to slashes at the end. -/
theorem core_congr {other : String} (h : trimmedBase base = trimmedBase other) :
    core transport base = core transport other := by
  have hsend : send transport base = send transport other := by
    funext operation body state
    simp only [send, request, address, h]
  simp only [core, hsend]

/-! ## Addresses -/

/-- The paths of operations have a slash first, and nothing that ends a path or is cleaned away. -/
theorem path_operation (operation : Operation) :
    operation.path.toList.head? = some '/' ∧
      (∀ c ∈ operation.path.toList, Url.inPath c = true) ∧ Url.IsClean operation.path.toList := by
  cases operation <;> exact ⟨by decide, List.all_eq_true.mp (by decide), by decide⟩

/-- Behind a base address without the slashes at its end, the path of an operation leads to the same
server. -/
theorem exists_target (hstem : stem.toList.getLast? ≠ some '/')
    (h : IsBase (stem ++ slashes k) url) (operation : Operation) :
    ∃ path, Url.ofText? (stem ++ operation.path) = some { url with path } := by
  obtain ⟨front, authority, path, htext, hplain, hother⟩ :=
    Url.exists_front h.parsed h.clean h.query h.fragment
  obtain ⟨hslash, hpath, hclean⟩ := path_operation operation
  have hauthority : (front ++ authority).rdropWhile (· == '/') = front ++ authority := by
    rw [List.rdropWhile_eq_self_iff]
    intro hne hlast
    rw [List.getLast_append_of_ne_nil _ hplain.ne_nil, beq_iff_eq] at hlast
    have hinside := hplain.inAuthority _ (List.getLast_mem hplain.ne_nil)
    rw [hlast] at hinside
    cases hinside
  have hkept : stem.toList = front ++ (authority ++ path.rdropWhile (· == '/')) := by
    rw [← rdropWhile_slashes hstem k, htext, ← List.append_assoc, rdropWhile_append hauthority,
      List.append_assoc]
  have htarget : stem ++ operation.path = String.ofList (front ++ (authority ++
      (path.rdropWhile (· == '/') ++ operation.path.toList))) := by
    apply String.toList_injective
    rw [String.toList_append, hkept, String.toList_ofList]
    simp only [List.append_assoc]
  have hshorter : path.rdropWhile (· == '/') <+: path := List.rdropWhile_prefix _ _
  rw [htarget]
  refine ⟨_, hother _ (hplain.keeping hshorter hpath hslash) ?_⟩
  intro c hc
  rcases List.mem_append.mp hc with hc | hc
  · refine h.clean c ?_
    rw [htext]
    exact List.mem_append_right _ (List.mem_append_right _ (hshorter.subset hc))
  · exact hclean c hc

/-! ## Bodies -/

/-- Members are held like those that are put in one after another. -/
theorem heldMembers_eq (acc ms : List (String × Value)) :
    Value.heldMembers acc ms = Json.heldPairs Value.held acc ms := by
  induction ms generalizing acc with
  | nil => rfl
  | cons m ms ih => exact ih _

/-- An object of scalars with different keys is read as it was written, up to the order. -/
theorem exists_members {ms : List (String × Value)} (hscalar : ∀ m ∈ ms, m.2.Scalar)
    (hkeys : (ms.map (·.1)).Nodup) :
    ∃ members, Value.ofBytes (Value.object ms).bytes = .ok (.object members) ∧
      members.Perm ms := by
  have hfaithful : (Value.object ms).Faithful Json.nestingLimit :=
    .object fun m hm => .scalar (hscalar m hm)
  have hperm := @Json.heldPairs_perm _ Value.held [] _ hkeys fun _ _ => List.not_mem_nil
  have hheld : ms.map (fun m => (m.1, m.2.held)) = ms := by
    have hsame : ∀ m ∈ ms, (m.1, m.2.held) = m :=
      fun m hm => congrArg (m.1, ·) (hscalar m hm).held_eq
    rw [List.map_congr_left hsame, List.map_id']
  refine ⟨_, hfaithful.ofBytes_bytes, ?_⟩
  rw [heldMembers_eq]
  rwa [hheld, List.append_nil] at hperm

/-- The members that a call brings are strings or `null`. -/
theorem scalar_of_mem_contract : ∀ m ∈ (contract call).2, m.2.Scalar := by
  have hname : ∀ name : Option String, (name.elim .null .string : Value).Scalar := by
    rintro (_ | name)
    · exact .null
    · exact .string name
  rcases call with token | (⟨email, password⟩ | account | token) <;>
    simp only [contract, List.forall_mem_cons, List.not_mem_nil, false_implies, implies_true,
      and_true]
  · exact .string token
  · exact ⟨.string email, .string password⟩
  · exact ⟨.string account.email, .string account.password, hname account.name⟩
  · exact .string token

/-- The members that a call brings have different keys. -/
theorem nodup_contract : ((contract call).2.map (·.1)).Nodup := by
  rcases call with token | (⟨email, password⟩ | account | token) <;> simp [contract]

/-- The body of a call is an object of these members. -/
theorem exists_body (call : Call) :
    ∃ ms, (asked call).2 = .object ms ∧ ms.Perm (contract call).2 := by
  rcases call with token | (⟨email, password⟩ | ⟨email, password, name⟩ | token)
  · exact ⟨_, rfl, .refl _⟩
  · exact ⟨_, rfl, .refl _⟩
  · cases name with
    | none => exact ⟨_, rfl, .cons _ (.swap _ _ _)⟩
    | some name => exact ⟨_, rfl, .cons _ (.swap _ _ _)⟩
  · exact ⟨_, rfl, .refl _⟩

/-- The body of a call is read as an object of these members. -/
theorem exists_arguments (call : Call) :
    ∃ members, Value.ofBytes (asked call).2.text.toUTF8.toList = .ok (.object members) ∧
      members.Perm (contract call).2 := by
  obtain ⟨ms, hbody, hperm⟩ := exists_body call
  have hscalar : ∀ m ∈ ms, m.2.Scalar :=
    fun m hm => scalar_of_mem_contract m (hperm.mem_iff.mp hm)
  have hkeys : (ms.map (·.1)).Nodup := (hperm.map _).nodup_iff.mpr nodup_contract
  obtain ⟨members, hread, hmembers⟩ := exists_members hscalar hkeys
  rw [hbody, Value.toList_toUTF8_text]
  exact ⟨members, hread, hmembers.trans hperm⟩

/-- The path of the operation of a call. -/
theorem path_asked (call : Call) : (asked call).1.path = (contract call).1 := by
  rcases call with token | (_ | _ | _) <;> rfl

/-! ## Requests of calls -/

/-- The request for a call brings the call. -/
theorem brings_request (hbase : trimmedBase base = stem) (call : Call) :
    (request base (asked call).1 (asked call).2).Brings stem call where
  method := rfl
  url := by rw [request, address, hbase, path_asked]
  contentType := rfl
  body := exists_arguments call

/-- To an address that takes no requests nothing is sent. -/
theorem send_of_not_takesRequests (haddress : Url.ofText? (address base operation) = some url)
    (htakes : url.takesRequests = false) (transport : Transport τ) (body : Value) (state : τ) :
    send transport base operation body state = (⟨.error (unsendable url), 0⟩, state) := by
  rw [send, haddress]
  exact if_neg (Bool.eq_false_iff.mp htakes)

/-- If the address of a call takes no requests, the core is said to be unavailable. -/
theorem saysUnavailable (haddress : Url.ofText? (address base (asked call).1) = some url)
    (htakes : url.takesRequests = false) :
    SaysUnavailable ((core transport base).reply moment call state).1 := by
  cases call with
  | lookup token =>
    have hsend := send_of_not_takesRequests haddress htakes transport (lookupBody token) state
    rw [asked] at hsend
    simp only [Core.reply, core, hsend]
    exact .identity _
  | grant request =>
    have hsend := send_of_not_takesRequests haddress htakes transport (grantBody request).2 state
    rw [asked] at hsend
    simp only [Core.reply, core, hsend]
    exact .grant _

/-- **Requests to a remote core.** Let slashes follow a base address, which itself does not end in
one. How many they are does not matter to the core, and a call goes to the same server, at its own
path behind the base address. If this address has no more than 65534 characters, the call is sent as
one request, which brings it. Otherwise nothing is sent, and the core is said to be unavailable. -/
theorem sent_of_isBase (hstem : stem.toList.getLast? ≠ some '/')
    (h : IsBase (stem ++ slashes k) url) (n : Nat) (transport : Transport τ) (moment : Moment)
    (call : Call) (state : τ) :
    core transport (stem ++ slashes k ++ slashes n) = core transport (stem ++ slashes k) ∧
    ∃ path, Url.ofText? (stem ++ (contract call).1) = some { url with path } ∧
      (({ url with path } : Url).text.length ≤ 65534 →
        ∃ r, sent transport (stem ++ slashes k ++ slashes n) moment call state = [r] ∧
          r.Brings stem call) ∧
      (65534 < ({ url with path } : Url).text.length →
        sent transport (stem ++ slashes k ++ slashes n) moment call state = [] ∧
        SaysUnavailable
          ((core transport (stem ++ slashes k ++ slashes n)).reply moment call state).1) := by
  have hbase : trimmedBase (stem ++ slashes k ++ slashes n) = stem := by
    rw [append_slashes, trimmedBase_append_slashes hstem]
  obtain ⟨path, htarget⟩ := exists_target hstem h (asked call).1
  have haddress : Url.ofText? (address (stem ++ slashes k ++ slashes n) (asked call).1) =
      some { url with path } := by
    rw [address, hbase, htarget]
  have htakes : ({ url with path } : Url).takesRequests =
      decide (({ url with path } : Url).text.length ≤ 65534) := by
    rw [Url.takesRequests, List.all_eq_true.mpr h.host, Bool.true_and, Url.lengthLimit]
  refine ⟨core_congr (hbase.trans (trimmedBase_append_slashes hstem k).symm), path, ?_, ?_, ?_⟩
  · rw [← path_asked, htarget]
  · intro hshort
    refine ⟨_, ?_, brings_request hbase call⟩
    rw [sent_eq, requests, haddress]
    exact if_pos (htakes.trans (decide_eq_true hshort))
  · intro hlong
    have hfalse := htakes.trans (decide_eq_false (Nat.not_le.mpr hlong))
    refine ⟨?_, saysUnavailable haddress hfalse⟩
    rw [sent_eq, requests, haddress]
    exact if_neg (Bool.eq_false_iff.mp hfalse)

end

/-! ## Two base addresses -/

/-- The moment of the sample calls below. A remote core reads nothing off it. -/
def sampleMoment : Moment where
  now := ⟨0, 0⟩
  userId := "u"
  salt := []
  firstToken := "b"
  secondToken := "c"

/-- An account without a name, whose password has to be escaped. -/
def escapedAccount : NewAccount := ⟨"ada@x.org", "\"\\\u0001é", none⟩

/-- An address of this machine. -/
def localUrl (path : List Char) : Url :=
  ⟨"http", "[::1]".toList, none, path, none, none⟩

/-- A core with a version in its address, and slashes behind it, is sent a registration. -/
theorem sent_of_isBase_register :
    ∃ r, sent unreachable ("http://[::1]/v1" ++ slashes 2 ++ slashes 3) sampleMoment
        (.grant (.register escapedAccount)) () = [r] ∧
      r.Brings "http://[::1]/v1" (.grant (.register escapedAccount)) := by
  have hstem : "http://[::1]/v1".toList.getLast? ≠ some '/' := by decide +kernel
  have hbase : IsBase ("http://[::1]/v1" ++ slashes 2) (localUrl "/v1//".toList) :=
    ⟨by decide +kernel, by decide +kernel, rfl, rfl, List.all_eq_true.mp (by decide)⟩
  obtain ⟨-, path, htarget, hshort, -⟩ := sent_of_isBase hstem hbase 3 unreachable sampleMoment
    (.grant (.register escapedAccount)) ()
  have hpath : Url.ofText? ("http://[::1]/v1" ++ "/register") =
      some (localUrl "/v1/register".toList) := by decide +kernel
  have hsame := Option.some.inj (htarget.symm.trans hpath)
  refine hshort ?_
  rw [hsame]
  decide +kernel

/-! ## Paths of many letters -/

/-- An address whose path is some number of letters. -/
def letteredBase (n : Nat) : String :=
  "http://[::1]/" ++ String.ofList (List.replicate n 'a')

/-- The characters of such an address. -/
theorem toList_letteredBase (n : Nat) :
    (letteredBase n).toList = "http://[::1]/".toList ++ List.replicate n 'a' := by
  rw [letteredBase, String.toList_append, @String.toList_ofList (List.replicate n 'a')]

/-- Letters are safe in a path, and not cleaned away. -/
theorem of_mem_letters {n : Nat} {c : Char} (hc : c ∈ List.replicate n 'a') :
    (Url.pathSafe c = true ∧ c ≠ '\\') ∧ Url.inPath c = true ∧ 0x20 < c.toNat := by
  obtain rfl := List.eq_of_mem_replicate hc
  decide

/-- Nothing is cleaned away from such an address. -/
theorem isClean_letteredBase (n : Nat) : Url.IsClean (letteredBase n).toList := by
  have hfront : Url.IsClean "http://[::1]/".toList := by decide
  rw [toList_letteredBase]
  exact List.forall_mem_append.mpr ⟨hfront, fun c hc => (of_mem_letters hc).2.2⟩

/-- The address with a path behind the letters. -/
theorem ofText?_letteredBase (n : Nat) {more : String} (hmore : Url.IsClean more.toList)
    (hpath : ∀ c ∈ more.toList, Url.inPath c = true) :
    Url.ofText? (letteredBase n ++ more) =
      some (localUrl (Url.normalPath ('/' :: (List.replicate n 'a' ++ more.toList)))) := by
  have hplain : Url.Plain "[::1]".toList ('/' :: (List.replicate n 'a' ++ more.toList)) := by
    refine ⟨by decide, List.all_eq_true.mp (by decide), ?_, fun c hc => ?_⟩
    · rw [List.forall_mem_cons, List.forall_mem_append]
      exact ⟨by decide, fun c hc => (of_mem_letters hc).2.1, hpath⟩
    · obtain rfl := Option.some.inj hc
      decide
  have hchars : (letteredBase n ++ more).toList = "http".toList ++ ':' :: ("//".toList ++
      ("[::1]".toList ++ '/' :: (List.replicate n 'a' ++ more.toList))) := by
    simp [letteredBase]
  have hclean : Url.IsClean (letteredBase n ++ more).toList := by
    rw [String.toList_append]
    exact List.forall_mem_append.mpr ⟨isClean_letteredBase n, hmore⟩
  have hslashes : ∀ c ∈ "//".toList, Url.isSlash c = true := List.all_eq_true.mp (by decide)
  have hblank : Url.plain? "http" "[::1]".toList [] = some (localUrl (Url.normalPath [])) := by
    decide +kernel
  rw [hchars] at hclean
  rw [← @String.ofList_toList (letteredBase n ++ more), hchars,
    Url.ofText?_eq ⟨by decide, .inl rfl⟩ hclean, Url.afterScheme?_eq hslashes hplain,
    Url.plain?_of_path hblank]
  rfl

/-- Such an address is one of a core. -/
theorem isBase_letteredBase (n : Nat) :
    IsBase (letteredBase n) (localUrl (Url.normalPath ('/' :: List.replicate n 'a'))) where
  parsed := by
    have hparsed := @ofText?_letteredBase n "" (by decide) (List.all_eq_true.mp (by decide))
    rwa [String.append_empty, String.toList_empty, List.append_nil] at hparsed
  clean := isClean_letteredBase n
  query := rfl
  fragment := rfl
  host := by
    change ∀ c ∈ "[::1]".toList, Url.isSendable c = true
    exact List.all_eq_true.mp (by decide)

/-- Such an address does not end in a slash. -/
theorem getLast?_letteredBase {n : Nat} (hn : 0 < n) :
    (letteredBase n).toList.getLast? ≠ some '/' := by
  have hletters : List.replicate n 'a' ≠ [] := by
    simp only [ne_eq, List.replicate_eq_nil_iff]
    omega
  rw [toList_letteredBase, List.getLast?_append_of_ne_nil _ hletters,
    List.getLast?_eq_some_getLast hletters, List.getLast_replicate]
  decide

/-- Letters and the path of a look-up are in normal form. -/
theorem normalPath_letters {n : Nat} (hn : 0 < n) :
    Url.normalPath ('/' :: (List.replicate n 'a' ++ "/lookup".toList)) =
      '/' :: (List.replicate n 'a' ++ "/lookup".toList) := by
  have hslash : '/' ∉ List.replicate n 'a' :=
    fun hmem => absurd (List.eq_of_mem_replicate hmem) (by decide)
  have hpieces : Text.splitAt '/' (List.replicate n 'a' ++ "/lookup".toList) =
      [List.replicate n 'a', "lookup".toList] :=
    Text.splitAt_append hslash "lookup".toList
  refine Url.normalPath_eq (List.forall_mem_append.mpr ⟨fun c hc => (of_mem_letters hc).1, ?_⟩) ?_
  · exact List.all_iff_forall_prop.mp (by decide)
  · obtain ⟨m, rfl⟩ := Nat.exists_eq_add_of_lt hn
    rw [hpieces, List.forall_mem_cons, List.forall_mem_singleton, List.replicate_succ]
    exact ⟨Url.isDot_eq_false (by decide) (by decide) _, by decide⟩

/-- Nothing is sent to an address with too many letters. -/
theorem requests_letteredBase {n : Nat} (hn : 65534 ≤ n) (body : Value) :
    requests (letteredBase n) .lookup body = [] := by
  have hpositive : 0 < n := by omega
  have htrimmed := trimmedBase_append_slashes (getLast?_letteredBase hpositive) 0
  have haddress : Url.ofText? (address (letteredBase n) .lookup) =
      some (localUrl ('/' :: (List.replicate n 'a' ++ "/lookup".toList))) := by
    rw [slashes, List.replicate_zero, String.ofList_nil, String.append_empty] at htrimmed
    rw [address, htrimmed, Operation.path, ofText?_letteredBase n (by decide)
      (List.all_eq_true.mp (by decide)), normalPath_letters hpositive]
  have hlong : 65534 <
      (localUrl ('/' :: (List.replicate n 'a' ++ "/lookup".toList))).text.length := by
    have hpath := Url.length_path_le (localUrl ('/' :: (List.replicate n 'a' ++ "/lookup".toList)))
    simp only [localUrl, List.length_cons, List.length_append, List.length_replicate] at hpath ⊢
    omega
  have htakes : (localUrl ('/' :: (List.replicate n 'a' ++ "/lookup".toList))).takesRequests =
      false := by
    rw [Url.takesRequests, Bool.and_eq_false_iff]
    exact .inr (decide_eq_false (Nat.not_le.mpr hlong))
  rw [requests, haddress]
  exact if_neg (Bool.eq_false_iff.mp htakes)

/-- Seventy thousand letters are a base address to which nothing is sent. -/
theorem sent_letteredBase :
    (letteredBase 70000).toList.getLast? ≠ some '/' ∧ (∃ url, IsBase (letteredBase 70000) url) ∧
      sent unreachable (letteredBase 70000) sampleMoment (.lookup "t") () = [] := by
  refine ⟨getLast?_letteredBase (by decide), ⟨_, isBase_letteredBase 70000⟩, ?_⟩
  rw [sent_eq]
  exact requests_letteredBase (by decide) _

end IdentityGateway.Remote
