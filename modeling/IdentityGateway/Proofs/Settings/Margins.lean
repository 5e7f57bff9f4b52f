import IdentityGateway.Proofs.Settings.Acceptance
import IdentityGateway.Proofs.Text.Margins

/-!
# Blanks around settings

Blanks around the value of a setting change nothing, with two exceptions. A port with blanks around
it is refused. A deployment with blanks around it is development, whatever it names, so that
production with blanks around it starts with the core in memory and lets any page call it.
-/

namespace IdentityGateway.Settings

open Text (Margins)

/-- What is found if blanks are put around the value of one setting. -/
def padded (lookup : String → Option String) (name : String) (m : Margins) (other : String) :
    Option String :=
  if other = name then (lookup other).map m.around else lookup other

/-- The same environment, but with one setting left out. -/
def without (lookup : String → Option String) (name other : String) : Option String :=
  if other = name then none else lookup other

/-- A setting is read the same with blanks around its value. -/
def Forgives {α : Type} (read : Option String → α) : Prop :=
  ∀ (m : Margins) (value : Option String), read (value.map m.around) = read value

section

variable {α : Type} {lookup lookup' : String → Option String} {name text : String} {m : Margins}

/-- A setting that is read the same with blanks is so whatever setting gets them. -/
theorem Forgives.padded {read : Option String → α} (h : Forgives read)
    (lookup : String → Option String) (name : String) (m : Margins) (other : String) :
    read (padded lookup name m other) = read (lookup other) := by
  rw [Settings.padded]
  split
  · exact h m (lookup other)
  · rfl

/-- The other settings are found as before. -/
theorem padded_of_ne {other : String} (h : other ≠ name) :
    padded lookup name m other = lookup other :=
  if_neg h

/-- Listed origins may have blanks around them. -/
theorem forgives_originsOf : Forgives originsOf := by
  intro m value
  cases value with
  | none => rfl
  | some text =>
    have hcomma : Text.isBlank ',' = false := rfl
    have hpieces := congrArg (List.map String.ofList)
      (Text.map_trimChars_splitAt hcomma m.blank_before m.blank_after text.toList)
    rw [List.map_map, List.map_map] at hpieces
    rw [Option.map_some, originsOf, originsOf, Option.getD_some, Option.getD_some, Margins.around,
      String.toList_ofList]
    exact congrArg (List.filter _) hpieces

/-- A setting of which only what is left without the blanks around it counts may have blanks. -/
theorem Forgives.of_trim {read : Option String → α}
    (h : ∀ {s t : String}, Text.trim s = Text.trim t → read (some s) = read (some t)) :
    Forgives read := by
  rintro m (_ | text)
  · rfl
  · exact h (m.trim_around text)

/-- A cookie name may have blanks around it. -/
theorem forgives_cookieNameOf : Forgives cookieNameOf :=
  .of_trim fun h => by simp only [cookieNameOf, Option.map_some, h]

/-- The address of a remote core may have blanks around it. -/
theorem forgives_coreUrlOf : Forgives coreUrlOf :=
  .of_trim fun h => by simp only [coreUrlOf, Option.map_some, h]

/-- A grant mode may have blanks around it. -/
theorem forgives_grantModeOf : Forgives grantModeOf :=
  .of_trim fun h => by simp only [grantModeOf, GrantMode.ofName?, h]

/-- A lifetime may have blanks around it. -/
theorem forgives_accessLifetimeOf : Forgives accessLifetimeOf :=
  .of_trim fun h => by simp only [accessLifetimeOf, h]

/-- A time limit may have blanks around it. -/
theorem forgives_requestTimeoutOf : Forgives requestTimeoutOf :=
  .of_trim fun h => by simp only [requestTimeoutOf, h]

private theorem portOf_around (hm : m.Some) (text : String) :
    portOf (some (m.around text)) = .error (.invalid "PORT") := by
  simp only [portOf, Text.natBelow?_eq_none_of_blank (hm.exists_blank text)]

/-- A deployment with blanks around it is development. -/
theorem ofSetting_around (hm : m.Some) (text : String) :
    Deployment.ofSetting (some (m.around text)) = .development := by
  have hlong : Text.lowerAscii (m.around text) ≠ "production" :=
    Text.lowerAscii_ne_of_blank (by decide) (hm.exists_blank text)
  have hshort : Text.lowerAscii (m.around text) ≠ "prod" :=
    Text.lowerAscii_ne_of_blank (by decide) (hm.exists_blank text)
  simp only [Deployment.ofSetting, hlong, hshort, or_self, if_false]

/-- Settings with blanks around one of them are those in which the port and the deployment are read
the same. -/
theorem ofLookup_padded_of_same
    (hport : portOf (padded lookup name m "PORT") = portOf (lookup "PORT"))
    (hdeployment : Deployment.ofSetting (padded lookup name m "APP_ENV") =
      Deployment.ofSetting (lookup "APP_ENV")) :
    ofLookup (padded lookup name m) = ofLookup lookup := by
  simp only [ofLookup, hport, hdeployment, forgives_originsOf.padded, forgives_cookieNameOf.padded,
    forgives_coreUrlOf.padded, forgives_grantModeOf.padded, forgives_accessLifetimeOf.padded,
    forgives_requestTimeoutOf.padded]

/-- A deployment with blanks around it is read as if it were absent. -/
theorem ofSetting_padded (hm : m.Some) (lookup : String → Option String) :
    Deployment.ofSetting (padded lookup "APP_ENV" m "APP_ENV") = .development := by
  rw [padded, if_pos rfl]
  cases lookup "APP_ENV" with
  | none => rfl
  | some text => exact ofSetting_around hm text

/-- Settings with blanks around the deployment are those without the deployment. -/
theorem ofLookup_padded_deployment (hm : m.Some) (lookup : String → Option String) :
    ofLookup (padded lookup "APP_ENV" m) = ofLookup (without lookup "APP_ENV") := by
  have hother : ∀ {name : String}, name ≠ "APP_ENV" →
      padded lookup "APP_ENV" m name = without lookup "APP_ENV" name := fun h =>
    (if_neg h).trans (if_neg h).symm
  have hdeployment : Deployment.ofSetting (without lookup "APP_ENV" "APP_ENV") = .development :=
    rfl
  simp only [ofLookup, ofSetting_padded hm, hdeployment, hother, ne_eq, String.reduceEq,
    not_false_eq_true]

/-- **Blanks around settings.** Blanks around any setting but the port and the deployment change
nothing. A port with blanks around it is refused. Blanks around the deployment change nothing unless
it is production; with them it counts as absent. -/
theorem ofLookup_padded (lookup : String → Option String) (m : Margins) :
    (∀ name, name ≠ "PORT" → name ≠ "APP_ENV" →
      ofLookup (padded lookup name m) = ofLookup lookup) ∧
    (∀ text, lookup "PORT" = some text → m.Some →
      ofLookup (padded lookup "PORT" m) = .error (.invalid "PORT")) ∧
    (¬ NamesProduction lookup → ofLookup (padded lookup "APP_ENV" m) = ofLookup lookup) ∧
    (m.Some → ofLookup (padded lookup "APP_ENV" m) = ofLookup (without lookup "APP_ENV")) := by
  refine ⟨?_, ?_, ?_, fun hm => ofLookup_padded_deployment hm lookup⟩
  · intro name hport hdeployment
    apply ofLookup_padded_of_same
    · rw [padded_of_ne hport.symm]
    · rw [padded_of_ne hdeployment.symm]
  · intro text htext hm
    rw [ofLookup, padded, if_pos rfl, htext, Option.map_some, portOf_around hm]
    rfl
  · intro hdevelopment
    apply ofLookup_padded_of_same
    · rw [padded_of_ne (by decide)]
    · by_cases hm : m.Some
      · rw [ofSetting_padded hm]
        cases hread : Deployment.ofSetting (lookup "APP_ENV") with
        | development => rfl
        | production => exact absurd (ofSetting_eq_production_iff.mp hread) hdevelopment
      · rw [padded, if_pos rfl, funext fun text => m.around_eq_self text hm, Option.map_id']

end

/-! ## A tab and a line break -/

/-- A tab before a text and a line break behind it. -/
def tabAndBreak : Margins where
  before := ['\t']
  after := ['\n']
  blank_before := List.forall_mem_singleton.mpr rfl
  blank_after := List.forall_mem_singleton.mpr rfl

/-- In production blanks around the cookie name change nothing, and a port is refused with them.
Around the deployment they change nothing if it is absent, and they take production away. -/
theorem ofLookup_padded_production :
    ofLookup (padded productionEnvironment "AUTH_COOKIE_NAME" tabAndBreak) =
      ofLookup productionEnvironment ∧
    ofLookup (padded productionEnvironment "PORT" tabAndBreak) = .error (.invalid "PORT") ∧
    ofLookup (padded (without productionEnvironment "APP_ENV") "APP_ENV" tabAndBreak) =
      ofLookup (without productionEnvironment "APP_ENV") ∧
    ofLookup (padded productionEnvironment "APP_ENV" tabAndBreak) =
      ofLookup (without productionEnvironment "APP_ENV") := by
  have hblank : tabAndBreak.Some := List.cons_ne_nil _ _
  obtain ⟨hothers, hport, -, hdeployment⟩ := ofLookup_padded productionEnvironment tabAndBreak
  obtain ⟨-, -, hdevelopment, -⟩ :=
    ofLookup_padded (without productionEnvironment "APP_ENV") tabAndBreak
  refine ⟨hothers _ (by decide) (by decide), hport "+08080" rfl hblank, ?_, hdeployment hblank⟩
  apply hdevelopment
  rintro ⟨text, htext, -⟩
  cases htext

/-- An environment that has one setting, and the defaults for the others. -/
def lone (name text other : String) : Option String :=
  if other = name then some text else none

/-- The port 8080 is refused with blanks around it. Production without an address of a core is
refused, but with blanks around it the gateway starts in development, with the core in memory, and
any page may call it. -/
theorem ofLookup_padded_ne :
    (ofLookup (lone "PORT" "8080")).toOption.map Settings.port = some 8080 ∧
    ofLookup (padded (lone "PORT" "8080") "PORT" tabAndBreak) = .error (.invalid "PORT") ∧
    ofLookup (lone "APP_ENV" "production") = .error (.missing "AUTH_CORE_URL") ∧
    ∃ settings, ofLookup (padded (lone "APP_ENV" "production") "APP_ENV" tabAndBreak) =
        .ok settings ∧
      settings.deployment = .development ∧
      Startup.coreChoice settings = .memory .tokenPair 3600 ∧
      Gateway.Cors.Rule.ofSettings settings = .anyone := by
  let settings : Settings := {
    port := 3000
    deployment := .development
    allowedOrigins := []
    cookieName := "access_token"
    coreUrl := none
    grantMode := .tokenPair
    accessLifetime := 3600
    requestTimeout := 30 }
  exact ⟨by decide +kernel, by decide +kernel, by decide +kernel, settings, by decide +kernel, rfl,
    rfl, rfl⟩

end IdentityGateway.Settings
