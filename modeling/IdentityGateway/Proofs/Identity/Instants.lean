import IdentityGateway.Proofs.Identity.Forms
import IdentityGateway.Proofs.Timestamp.Offsets

/-!
# Users created at a local time

The time of creation may be written as a local time with any offset. It is read as the local time
less the offset and shown in universal time, so that neither depends on the offset in which the same
point in time was written.
-/

namespace IdentityGateway.Identity

open Json (Value Padded Writes)
open Timestamp (LocalTime clockChars)

/-- A text gives the texts of the fields of a user, but with a string for the time of creation. -/
def GivesCreated (bs : List UInt8) (f : FieldTexts) (s : String) : Prop :=
  ∃ text created, Padded bs text ∧ Writes created (.string s) ∧
    Gives text { f with createdAt := created }

section

variable {f : FieldTexts} {u : Identity} {bs : List UInt8} {s : String}

/-- A user is read with the point in time of the string. -/
theorem GivesCreated.ofBytes_eq_ok (h : GivesCreated bs f s) (hmean : f.Mean u)
    {instant : Timestamp} (hread : Timestamp.ofText s = .ok instant) :
    ofBytes bs = .ok { u with createdAt := instant } := by
  obtain ⟨text, created, hbs, hwrites, hgives⟩ := h
  have hmeans : FieldTexts.Mean { f with createdAt := created } { u with createdAt := instant } :=
    { hmean with createdAt := ⟨_, hwrites, s, rfl, hread⟩ }
  rw [ofBytes, Json.Shape.ofBytes_eq_ok_iff slotted scalarFields]
  exact ⟨text, hbs, recordText_iff.mpr ⟨_, hgives, hmeans⟩⟩

/-- **Offsets.** A local time of creation with a year of four digits and an offset is read as the
local time less the offset. It is shown as the date and the time of day that are left when the
offset is taken away, in universal time, and what is shown is read as the point in time without its
fraction. The user is the same if the same point in time is written with another offset. -/
theorem created_told {t : LocalTime} (hyear : 0 ≤ t.date.year ∧ t.date.year ≤ 9999) {offset : Int}
    (hs : t.Written offset s) (hmean : f.Mean u) (hbs : GivesCreated bs f s) :
    ∃ instant shown, t.Denotes offset instant ∧ (t.less offset).Denotes 0 instant ∧
      ofBytes bs = .ok { u with createdAt := instant } ∧
      (view { u with createdAt := instant }).get? "createdAt" = some (.string shown) ∧
      shown = String.ofList (clockChars (t.less offset).date (t.less offset).hour
        (t.less offset).minute (t.less offset).second ++ "+00:00".toList) ∧
      Timestamp.ofText shown = .ok instant.wholeSeconds ∧
      ∀ (t' : LocalTime) (offset' : Int), t'.Denotes offset' instant → ∀ s',
        t'.Written offset' s' → ∀ bs', GivesCreated bs' f s' → ofBytes bs' = ofBytes bs := by
  obtain ⟨hlow, hhigh⟩ := LocalTime.seconds_bounds hyear hs.lt_day
  have hsupported := LocalTime.supported_of_bounds hs.lt_day hlow hhigh
  have hread := hbs.ofBytes_eq_ok hmean (hsupported.ofText_of_written hs)
  refine ⟨t.instant offset, (t.instant offset).text, LocalTime.denotes_iff.mpr rfl,
    LocalTime.denotes_iff.mpr (t.instant_less hs.lt_day), hread, rfl, ?_,
    Timestamp.ofText_text hsupported.isSupported, ?_⟩
  · rw [← t.instant_less hs.lt_day, LocalTime.text_instant]
  · intro t' offset' hsame s' hs' bs' hbs'
    rw [LocalTime.denotes_iff] at hsame
    have hsupported' : t'.Supported offset' :=
      LocalTime.supported_of_bounds hs'.lt_day (hsame ▸ hlow) (hsame ▸ hhigh)
    rw [hread, ← hsame]
    exact hbs'.ofBytes_eq_ok hmean (hsupported'.ofText_of_written hs')

end

/-! ## The last minute of the year 9999 -/

/-- The members of a user that was created at some time. -/
def membersCreated (created : String) : List (String × Value) := [
  ("id", .string "u1"),
  ("email", .string "ada@example.com"),
  ("created_at", .string created),
  ("updated_at", .string "1970-01-01T00:00:00Z")]

/-- The texts of the fields of such a user. -/
def fieldsCreated : FieldTexts where
  id := (Value.string "u1").bytes
  email := (Value.string "ada@example.com").bytes
  name := none
  emailVerified := none
  createdAt := (Value.string "1970-01-01T00:00:00Z").bytes
  updatedAt := (Value.string "1970-01-01T00:00:00Z").bytes
  passwordHash := none

/-- The user whose time of creation is the beginning of 1970. -/
def firstUser : Identity where
  id := .text "u1"
  email := "ada@example.com"
  name := none
  emailVerified := false
  createdAt := ⟨0, 0⟩
  updatedAt := ⟨0, 0⟩
  passwordHash := none

/-- The texts of the fields are those of this user. -/
theorem mean_fieldsCreated : fieldsCreated.Mean firstUser where
  id := (Value.Scalar.string "u1").writes
  word := trivial
  email := (Value.Scalar.string "ada@example.com").writes
  name := .missing
  emailVerified := .missing
  createdAt := ⟨_, (Value.Scalar.string _).writes, _, rfl, by decide +kernel⟩
  updatedAt := ⟨_, (Value.Scalar.string _).writes, _, rfl, by decide +kernel⟩
  passwordHash := .missing

/-- The time of creation is given as it is said. -/
theorem givesCreated_membersCreated (created : String) :
    GivesCreated (Value.object (membersCreated created)).bytes fieldsCreated created := by
  have hmembers : ∀ m ∈ membersCreated created, m.2.Faithful 0 := by
    simp only [membersCreated, List.forall_mem_cons, List.not_mem_nil, false_implies, implies_true,
      and_true]
    exact ⟨.scalar (.string _), .scalar (.string _), .scalar (.string _), .scalar (.string _)⟩
  exact ⟨_, _, .refl _, (Value.Scalar.string created).writes,
    .object (Value.objectText_bytes hmembers) ⟨rfl, rfl, rfl, rfl, rfl, rfl, rfl⟩⟩

/-- The leap second at the end of the year 9999, half an hour behind universal time. -/
def lastSecondLocally : LocalTime where
  date := ⟨9999, 12, 31⟩
  hour := 23
  minute := 59
  second := 60
  fraction := ['5']
  exists_date := by decide
  isClock := ⟨by decide, by decide, by decide⟩
  isDigit := List.forall_mem_singleton.mpr rfl
  length_le := by decide

/-- The same leap second in universal time, with another digit. -/
def lastSecondUniversal : LocalTime where
  date := ⟨10000, 1, 1⟩
  hour := 0
  minute := 29
  second := 60
  fraction := ['5', '0']
  exists_date := by decide
  isClock := ⟨by decide, by decide, by decide⟩
  isDigit := List.forall_mem_cons.mpr ⟨rfl, List.forall_mem_singleton.mpr rfl⟩
  length_le := by decide

/-- The two texts of the leap second give the same user, who is shown to be created in the year
10000. -/
theorem created_told_leapSecond :
    ∃ u, ofBytes (Value.object (membersCreated "9999-12-31t23:59:60.5-00:30")).bytes = .ok u ∧
      u.view.get? "createdAt" = some (.string "+10000-01-01T00:29:60+00:00") ∧
      ofBytes (Value.object (membersCreated "+10000-01-01T00:29:60.50Z")).bytes = .ok u := by
  have hzone : Timestamp.OffsetText (-30) "-00:30".toList :=
    .west (show (0 : Int) ≤ 0 ∧ (0 : Int) ≤ 23 by decide)
      (show (0 : Int) ≤ 30 ∧ (30 : Int) ≤ 59 by decide)
  have hlocal : lastSecondLocally.Written (-30) "9999-12-31t23:59:60.5-00:30" :=
    .intro (.inl (Eq.refl 't')) hzone
  have huniversal : lastSecondUniversal.Written 0 "+10000-01-01T00:29:60.50Z" :=
    .intro (.inr (.inl (Eq.refl 'T'))) (.universal (.inl (Eq.refl 'Z')))
  obtain ⟨instant, shown, hdenotes, -, hread, hview, hshown, -, hsame⟩ :=
    created_told (by decide) hlocal mean_fieldsCreated (givesCreated_membersCreated _)
  have hinstant : lastSecondUniversal.Denotes 0 instant := by
    rw [LocalTime.denotes_iff] at hdenotes ⊢
    exact (by decide : lastSecondUniversal.instant 0 = lastSecondLocally.instant (-30)).trans
      hdenotes
  have htext : shown = "+10000-01-01T00:29:60+00:00" := hshown.trans (by decide)
  have hother := hsame _ 0 hinstant _ huniversal _ (givesCreated_membersCreated _)
  exact ⟨_, hread, htext ▸ hview, hother.trans hread⟩

end IdentityGateway.Identity
