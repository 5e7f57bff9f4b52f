import IdentityGateway.Proofs.Gateway.Questions
import IdentityGateway.Proofs.Gateway.Responses
import IdentityGateway.Proofs.Settings
import IdentityGateway.Proofs.Text.Utf8

/-!
# Origins of pages

In production a response names the origin of a page if the settings list it, and no other. The
asterisk never gets on the list, so that the list can always be set up and is never opened to
everyone. In development every page may call, but without credentials.
-/

namespace IdentityGateway

open Http (FieldValue Headers Request Response asciiBytes)

/-- The values of accepted header fields are made of the bytes of values. -/
theorem Http.Headers.isValue_of_ofPairs {fields : List (String × FieldValue)} {headers : Headers}
    (haccepted : Headers.ofPairs fields = .ok headers) :
    ∀ field ∈ headers, field.2.all Http.isValueByte = true := by
  induction fields generalizing headers with
  | nil =>
    obtain rfl := Except.ok.inj haccepted
    exact List.forall_mem_nil _
  | cons field rest ih =>
    obtain ⟨name, value⟩ := field
    rw [Headers.ofPairs] at haccepted
    split at haccepted
    · cases haccepted
    · split at haccepted
      · next hvalue =>
        cases hrest : Headers.ofPairs rest with
        | error e =>
          rw [hrest] at haccepted
          cases haccepted
        | ok more =>
          rw [hrest] at haccepted
          obtain rfl := Except.ok.inj haccepted
          exact List.forall_mem_cons.mpr ⟨hvalue, ih hrest⟩
      · cases haccepted

/-- The first value of a name is one of the values. -/
theorem Http.Headers.exists_mem_of_first? {headers : Headers} {name : String} {value : FieldValue}
    (hfirst : headers.first? name = some value) : ∃ field ∈ headers, field.2 = value := by
  obtain ⟨field, hfound, hvalue⟩ := Option.map_eq_some_iff.mp hfirst
  exact ⟨field, List.mem_of_find?_eq_some hfound, hvalue⟩

namespace Gateway

/-! ## The list of origins -/

namespace Cors

section

variable {origin : FieldValue}

/-- What is on the list: the bytes of the entries that are header values, but for the asterisk. -/
theorem mem_filterMap_originBytes?_iff {entries : List String} :
    origin ∈ entries.filterMap originBytes? ↔ ∃ entry ∈ entries,
      entry ≠ "*" ∧ entry.toUTF8.toList = origin ∧ origin.all Http.isValueByte = true := by
  simp only [List.mem_filterMap, originBytes?]
  refine exists_congr fun entry => and_congr_right fun _ => ?_
  split
  · next h =>
    rw [Option.some_inj]
    constructor
    · rintro rfl
      exact ⟨h.1, rfl, h.2⟩
    · rintro ⟨-, horigin, -⟩
      exact horigin
  · next h =>
    constructor
    · intro hnone
      cases hnone
    · rintro ⟨hentry, rfl, hvalue⟩
      exact absurd ⟨hentry, hvalue⟩ h

/-- An entry that is not the asterisk is not told like it in a header either. -/
theorem bytes_ne_asterisk {entry : String} (hentry : entry ≠ "*") :
    entry.toUTF8.toList ≠ asciiBytes "*" := by
  intro hbytes
  have hasterisk : "*".toUTF8.toList = asciiBytes "*" := by
    rw [Text.toList_toUTF8]
    decide
  exact hentry (Text.toList_toUTF8_inj.mp (hbytes.trans hasterisk.symm))

/-- Among the origins that can be told in headers the asterisk is never one. -/
theorem asterisk_not_mem (entries : List String) :
    asciiBytes "*" ∉ entries.filterMap originBytes? := by
  intro hmem
  obtain ⟨entry, -, hentry, hbytes, -⟩ := mem_filterMap_originBytes?_iff.mp hmem
  exact bytes_ne_asterisk hentry hbytes

/-- The rule can be set up, whatever the settings list. -/
theorem Rule.setUp?_eq (settings : Settings) :
    Rule.setUp? settings = some (.ofSettings settings) := by
  unfold Rule.setUp? Rule.ofSettings
  split
  · rw [Rule.ofList?, if_neg (asterisk_not_mem settings.allowedOrigins)]
  · rfl

/-- Under a list, a response names the origin of a page that is on it. -/
theorem all_addedHeaders_listed (origins : List FieldValue) (headers : Headers) :
    (addedHeaders (.listed origins) headers).all "access-control-allow-origin" =
      ((headers.first? "origin").filter origins.contains).toList := by
  have hvary : "vary" ≠ "access-control-allow-origin" := by decide
  have hcredentials : "access-control-allow-credentials" ≠ "access-control-allow-origin" := by
    decide
  rw [addedHeaders, varyHeader, Headers.all_cons_of_ne hvary, originHeaders_listed,
    Headers.all_cons_of_ne hcredentials]
  cases (headers.first? "origin").filter origins.contains <;> rfl

/-- Under no list, a response names the asterisk. -/
theorem all_addedHeaders_anyone (headers : Headers) :
    (addedHeaders .anyone headers).all "access-control-allow-origin" = [asciiBytes "*"] := by
  have hvary : "vary" ≠ "access-control-allow-origin" := by decide
  rw [addedHeaders, varyHeader, Headers.all_cons_of_ne hvary]
  rfl

/-- Under no list, credentials are not allowed. -/
theorem all_credentials_anyone (headers : Headers) :
    (addedHeaders .anyone headers).all "access-control-allow-credentials" = [] := by
  have hvary : "vary" ≠ "access-control-allow-credentials" := by decide
  rw [addedHeaders, varyHeader, Headers.all_cons_of_ne hvary]
  rfl

end

end Cors

/-! ## What served responses say of origins -/

/-- The names of the header fields about the origin of a page. -/
def originNames : List String :=
  ["access-control-allow-origin", "access-control-allow-credentials"]

/-- A comma-separated text lists an origin: it names it, and not as the asterisk. -/
def Lists (text : String) (origin : FieldValue) : Prop :=
  ∃ entry, Settings.Names text entry ∧ entry ≠ "*" ∧ entry.toUTF8.toList = origin

/-- A response names the origin that its request has first, if a text lists it, and else none. -/
structure TellsListed (text : String) (request : Request) (response : Response) : Prop where
  listed : ∀ origin, request.headers.first? "origin" = some origin → Lists text origin →
    response.headers.all "access-control-allow-origin" = [origin]
  unlisted : (∀ origin, request.headers.first? "origin" = some origin → ¬ Lists text origin) →
    response.headers.all "access-control-allow-origin" = []

/-- A response names the asterisk, and does not allow credentials. -/
structure TellsAnyone (response : Response) : Prop where
  origin : response.headers.all "access-control-allow-origin" = [asciiBytes "*"]
  credentials : response.headers.all "access-control-allow-credentials" = []

section

variable {σ : Type} {lookup : String → Option String} {settings : Settings} {text : String}
  {origin : FieldValue} {request : Request} {response : Response}

private theorem not_lists_asterisk (text : String) : ¬ Lists text (asciiBytes "*") := by
  rintro ⟨entry, -, hentry, hbytes⟩
  exact Cors.bytes_ne_asterisk hentry hbytes

/-- A response that names listed origins does not name the asterisk. -/
theorem TellsListed.asterisk_not_mem (h : TellsListed text request response) :
    asciiBytes "*" ∉ response.headers.all "access-control-allow-origin" := by
  by_cases hlisted : ∃ origin, request.headers.first? "origin" = some origin ∧ Lists text origin
  · obtain ⟨origin, hfirst, horigin⟩ := hlisted
    rw [h.listed origin hfirst horigin, List.mem_singleton]
    rintro rfl
    exact not_lists_asterisk text horigin
  · rw [h.unlisted fun origin hfirst horigin => hlisted ⟨origin, hfirst, horigin⟩]
    exact List.not_mem_nil

/-- The list of accepted settings in production has what the text lists, as far as it can be
sent. -/
theorem mem_listed_iff (hread : Settings.ReadFrom lookup settings)
    (hvalue : origin.all Http.isValueByte = true) :
    origin ∈ settings.allowedOrigins.filterMap Cors.originBytes? ↔
      Lists ((lookup "CORS_ALLOWED_ORIGINS").getD "") origin := by
  rw [Cors.mem_filterMap_originBytes?_iff, ← hread.allowedOrigins]
  simp only [Settings.mem_originsOf_iff, hvalue, and_true]
  rfl

/-- Under the names of what is said of origins, a response has what the rule adds, unless it is late
or its request is refused for the declared length. Then it has nothing. -/
theorem all_serve_of_status {name : String} (hname : name ∈ originNames) (service : Service)
    (core : Core σ) (moment : Moment) (freshId : FieldValue) (request : Request) (s : σ) :
    let response := (serve service core moment freshId request s).response
    response.headers.all name =
      if response.status = 408 ∨ response.status = 413 then []
      else (Cors.addedHeaders service.cors request.headers).all name := by
  intro response
  have hother : ∀ name ∈ originNames, name ≠ "allow" ∧ name ≠ "content-type" ∧
      requestIdHeader ≠ name ∧ Headers.all Cors.permissions name = [] := by decide
  obtain ⟨hallow, htype, hid, hpermissions⟩ := hother name hname
  have hheaders : response.headers.all name = _ :=
    serve_headers hallow service core moment freshId request s
  have hstatus : response.status = _ := serve_status service core moment freshId request s
  have hwithout : Headers.all [(requestIdHeader, requestId request.headers freshId)] name = [] :=
    Headers.all_cons_of_ne hid
  rw [hheaders, hstatus]
  cases core.isInTime moment (some service.timeLimit) 0 s (question service request) with
  | false => rfl
  | true =>
    rw [if_pos rfl, if_pos rfl, hwithout, List.append_nil, answerWithId]
    cases Body.isDeclaredTooLong request.headers with
    | true =>
      rw [if_pos rfl]
      exact Headers.all_cons_of_ne htype.symm
    | false =>
      have hanswered : ∀ status ∈ answered, ¬ (status = 408 ∨ status = 413) := by decide
      rw [if_neg Bool.false_ne_true, all_answerInTime service request _ htype hpermissions,
        if_neg (hanswered _ (status_answerInTime_mem service request _))]

/-- In production, a response names the origin that the rule adds. -/
theorem TellsListed.of_added (hread : Settings.ReadFrom lookup settings)
    (hproduction : settings.deployment = .production)
    (hvalues : ∀ field ∈ request.headers, field.2.all Http.isValueByte = true)
    (hadded : response.headers.all "access-control-allow-origin" =
      (Cors.addedHeaders (.ofSettings settings) request.headers).all
        "access-control-allow-origin") :
    TellsListed ((lookup "CORS_ALLOWED_ORIGINS").getD "") request response := by
  have hrule : Cors.Rule.ofSettings settings =
      .listed (settings.allowedOrigins.filterMap Cors.originBytes?) := by
    rw [Cors.Rule.ofSettings, hproduction]
    rfl
  rw [hrule, Cors.all_addedHeaders_listed] at hadded
  have hlisted : ∀ origin, request.headers.first? "origin" = some origin →
      ((settings.allowedOrigins.filterMap Cors.originBytes?).contains origin = true ↔
        Lists ((lookup "CORS_ALLOWED_ORIGINS").getD "") origin) := by
    intro origin hfirst
    obtain ⟨field, hfield, rfl⟩ := Headers.exists_mem_of_first? hfirst
    rw [List.contains_iff_mem]
    exact mem_listed_iff hread (hvalues field hfield)
  constructor
  case listed =>
    intro origin hfirst hnamed
    rw [hadded, hfirst, Option.filter_some, if_pos ((hlisted origin hfirst).mpr hnamed)]
    rfl
  case unlisted =>
    intro hnone
    rw [hadded]
    cases hfirst : request.headers.first? "origin" with
    | none => rfl
    | some origin =>
      rw [Option.filter_some, if_neg (mt (hlisted origin hfirst).mp (hnone origin hfirst))]
      rfl

/-- In development, a response names the asterisk. -/
theorem TellsAnyone.of_added (hdevelopment : settings.deployment = .development)
    (hadded : ∀ name ∈ originNames, response.headers.all name =
      (Cors.addedHeaders (.ofSettings settings) request.headers).all name) :
    TellsAnyone response := by
  have hrule : Cors.Rule.ofSettings settings = .anyone := by
    rw [Cors.Rule.ofSettings, hdevelopment]
    rfl
  rw [hrule] at hadded
  constructor
  case origin => rw [hadded _ (by decide), Cors.all_addedHeaders_anyone]
  case credentials => rw [hadded _ (by decide), Cors.all_credentials_anyone]

/-- **Origins.** With accepted settings the rule can be set up, and whatever is requested of the
service: a response that is neither late (408) nor refused for its declared length (413) names
in production the origin of the page if the settings list it, and in development the asterisk and
no credentials. No response has both the asterisk and credentials. -/
theorem origins_told (haccepted : Settings.ofLookup lookup = .ok settings) (backend : String)
    (core : Core σ) (moment : Moment) (freshId : FieldValue) (request : Request)
    (hheaders : ∃ fields, Headers.ofPairs fields = .ok request.headers) (s : σ) :
    let service := Service.ofSettings settings backend
    let response := (serve service core moment freshId request s).response
    Cors.Rule.setUp? settings = some service.cors ∧
      (response.status ≠ 408 → response.status ≠ 413 →
        (settings.deployment = .production →
          TellsListed ((lookup "CORS_ALLOWED_ORIGINS").getD "") request response ∧
            asciiBytes "*" ∉ response.headers.all "access-control-allow-origin") ∧
        (settings.deployment = .development → TellsAnyone response)) ∧
      (asciiBytes "*" ∈ response.headers.all "access-control-allow-origin" →
        response.headers.all "access-control-allow-credentials" = []) := by
  intro service response
  obtain ⟨fields, hfields⟩ := hheaders
  have hread := Settings.ReadFrom.of_ofLookup haccepted
  have hvalues := Headers.isValue_of_ofPairs hfields
  have hall : ∀ name ∈ originNames, response.headers.all name =
      if response.status = 408 ∨ response.status = 413 then []
      else (Cors.addedHeaders service.cors request.headers).all name := fun _ hname =>
    all_serve_of_status hname service core moment freshId request s
  have hadded : ¬ (response.status = 408 ∨ response.status = 413) → ∀ name ∈ originNames,
      response.headers.all name =
        (Cors.addedHeaders (.ofSettings settings) request.headers).all name := by
    intro hstatus name hname
    rw [hall name hname, if_neg hstatus]
    rfl
  have hproduction : ¬ (response.status = 408 ∨ response.status = 413) →
      settings.deployment = .production →
      TellsListed ((lookup "CORS_ALLOWED_ORIGINS").getD "") request response :=
    fun hstatus h => .of_added hread h hvalues (hadded hstatus _ (by decide))
  have hdevelopment : ¬ (response.status = 408 ∨ response.status = 413) →
      settings.deployment = .development → TellsAnyone response :=
    fun hstatus h => .of_added h (hadded hstatus)
  refine ⟨Cors.Rule.setUp?_eq settings, ?_, ?_⟩
  · intro hlate hlong
    have hstatus : ¬ (response.status = 408 ∨ response.status = 413) := not_or_intro hlate hlong
    exact ⟨fun h => ⟨hproduction hstatus h, (hproduction hstatus h).asterisk_not_mem⟩,
      hdevelopment hstatus⟩
  · intro hasterisk
    by_cases hstatus : response.status = 408 ∨ response.status = 413
    · rw [hall "access-control-allow-credentials" (by decide), if_pos hstatus]
    · cases hdeployment : settings.deployment with
      | production => exact absurd hasterisk (hproduction hstatus hdeployment).asterisk_not_mem
      | development => exact (hdevelopment hstatus hdeployment).credentials

end

/-! ## A page in production -/

/-- An environment of production that lists an origin, the asterisk and what is no header value. -/
def listingEnvironment (name : String) : Option String :=
  [("APP_ENV", "production"), ("AUTH_CORE_URL", "http://core"),
    ("CORS_ALLOWED_ORIGINS", "*, https://app.example ,a\x01b,,")].lookup name

/-- Accepted settings of production, whose list has an origin between the asterisk and a text that
no header can hold. -/
def listingSettings : Settings where
  port := 3000
  deployment := .production
  allowedOrigins := ["*", "https://app.example", "a\x01b"]
  cookieName := "access_token"
  coreUrl := some "http://core"
  grantMode := .tokenPair
  accessLifetime := 3600
  requestTimeout := 30

/-- A request that comes from a listed page, as the first of its origins says. -/
def pageRequest : Request :=
  ⟨"GET", "/api/v1/health",
    [("origin", asciiBytes "https://app.example"), ("origin", asciiBytes "*")], []⟩

/-- The rule is set up all the same, and the response names the page. -/
theorem origins_told_pageRequest :
    let response := (serve (.ofSettings listingSettings "remote") (Scripted.core slowScript)
      firstMoment (asciiBytes "r1") pageRequest {}).response
    Settings.ofLookup listingEnvironment = .ok listingSettings ∧
      (Cors.Rule.setUp? listingSettings).isSome = true ∧
      response.headers.all "access-control-allow-origin" = [asciiBytes "https://app.example"] := by
  intro response
  have haccepted : Settings.ofLookup listingEnvironment = .ok listingSettings := by decide
  have hstatus : response.status = 200 := by decide
  have hpage : Lists ((listingEnvironment "CORS_ALLOWED_ORIGINS").getD "")
      (asciiBytes "https://app.example") := by
    refine ⟨"https://app.example", Settings.mem_originsOf_iff.mp (by decide), by decide, ?_⟩
    rw [Text.toList_toUTF8]
    decide
  obtain ⟨hsetUp, htold, -⟩ := origins_told haccepted "remote" (Scripted.core slowScript)
    firstMoment (asciiBytes "r1") pageRequest ⟨pageRequest.headers, by decide⟩ {}
  obtain ⟨hproduction, -⟩ := htold (hstatus ▸ by decide) (hstatus ▸ by decide)
  obtain ⟨htells, -⟩ := hproduction rfl
  exact ⟨haccepted, Option.isSome_of_eq_some hsetUp, htells.listed _ (by decide) hpage⟩

end Gateway

end IdentityGateway
