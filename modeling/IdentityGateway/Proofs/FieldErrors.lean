import Mathlib.Data.List.Induction
import Mathlib.Data.List.Sort
import Mathlib.Data.String.Basic
import IdentityGateway.Account

/-!
# Messages by field

Errors have every field that a message was added for, in the order of the names, with all its
messages in the order they were added. So it does not matter how messages about different fields
were mixed, nor in which order a table of failed checks is visited. Checks that are each of a field
of its own leave the message of every check that fails, and nothing else.
-/

namespace IdentityGateway

namespace FieldErrors

/-- The messages about a field, in order. -/
def about (field : String) (messages : List (String × String)) : List String :=
  (messages.filter fun m => m.1 = field).map (·.2)

/-- What a table of failed checks says of its fields. -/
def said (table : List (String × List CheckFailure)) : List (String × String) :=
  table.flatMap fun entry => entry.2.map fun failure => (entry.1, failure.text)

/-- The fields are in the order of their names, and each is there once. -/
def Ordered (entries : List (String × List String)) : Prop :=
  entries.Pairwise fun a b => a.1 < b.1

section

variable {entries : List (String × List String)} {entry : String × List String}
  {errors other : FieldErrors} {field message : String} {texts : List String}
  {messages added : List (String × String)} {table visited : List (String × List CheckFailure)}

/-! ## The order of fields -/

/-- A message is put to an entry of its field, or is the first one of the field. -/
theorem fst_of_mem_insert (h : entry ∈ insert field message entries) :
    entry.1 = field ∨ ∃ old ∈ entries, old.1 = entry.1 := by
  induction entries with
  | nil =>
    obtain rfl := List.mem_singleton.mp h
    exact .inl rfl
  | cons first rest ih =>
    obtain ⟨name, messages⟩ := first
    simp only [insert] at h
    split at h
    · next hname =>
      rcases List.mem_cons.mp h with rfl | hrest
      · exact .inl hname
      · exact .inr ⟨entry, List.mem_cons_of_mem _ hrest, rfl⟩
    · split at h
      · rcases List.mem_cons.mp h with rfl | hmem
        · exact .inl rfl
        · exact .inr ⟨entry, hmem, rfl⟩
      · rcases List.mem_cons.mp h with rfl | hrest
        · exact .inr ⟨_, List.mem_cons_self, rfl⟩
        · rcases ih hrest with hfield | ⟨old, hold, hname⟩
          · exact .inl hfield
          · exact .inr ⟨old, List.mem_cons_of_mem _ hold, hname⟩

/-- The order is kept with one more message. -/
theorem Ordered.insert (h : Ordered entries) : Ordered (insert field message entries) := by
  induction entries with
  | nil => exact List.pairwise_singleton _ _
  | cons first rest ih =>
    obtain ⟨name, messages⟩ := first
    obtain ⟨hfirst, hrest⟩ := List.pairwise_cons.mp h
    simp only [FieldErrors.insert]
    split
    · exact List.pairwise_cons.mpr ⟨hfirst, hrest⟩
    next hne =>
    split
    · next hbefore =>
      refine List.pairwise_cons.mpr ⟨List.forall_mem_cons.mpr ⟨hbefore, fun old hold => ?_⟩, h⟩
      exact String.lt_trans hbefore (hfirst old hold)
    · next hbehind =>
      have hname : name < field := lt_of_le_of_ne (not_lt.mp hbehind) hne
      refine List.pairwise_cons.mpr ⟨fun new hnew => ?_, ih hrest⟩
      rcases fst_of_mem_insert hnew with hfield | ⟨old, hold, hold'⟩
      · exact hfield ▸ hname
      · exact hold' ▸ hfirst old hold

/-! ## Looking up a field -/

/-- The first entry is that of a field, or the field is looked up in the others. -/
theorem get?_cons (name : String) (texts : List String) (rest : List (String × List String))
    (field : String) :
    get? ⟨(name, texts) :: rest⟩ field =
      if name = field then some texts else get? ⟨rest⟩ field := by
  simp only [get?, List.find?_cons]
  split
  · next hname => rw [if_pos (beq_iff_eq.mp hname), Option.map_some]
  · next hname => rw [if_neg (beq_eq_false_iff_ne.mp hname)]

/-- There are no messages about a field before the first one. -/
theorem get?_eq_none (h : ∀ old ∈ entries, field < old.1) : get? ⟨entries⟩ field = none := by
  simp only [get?, Option.map_eq_none_iff, List.find?_eq_none, beq_iff_eq]
  exact fun old hold => (h old hold).ne'

/-- One more message about a field comes behind those that are there, and changes no other field. -/
theorem get?_insert (h : Ordered entries) (name : String) :
    get? ⟨insert field message entries⟩ name =
      if field = name then some ((get? ⟨entries⟩ field).getD [] ++ [message])
      else get? ⟨entries⟩ name := by
  induction entries with
  | nil => exact get?_cons field [message] [] name
  | cons first rest ih =>
    obtain ⟨given, texts⟩ := first
    obtain ⟨hfirst, hrest⟩ := List.pairwise_cons.mp h
    simp only [insert]
    split
    · next hgiven =>
      subst hgiven
      simp only [get?_cons, if_true, Option.getD_some]
      split <;> rfl
    next hne =>
    split
    · next hbefore =>
      -- the order leaves no entry of the field behind the new one
      have hnone : get? ⟨(given, texts) :: rest⟩ field = none :=
        get?_eq_none (List.forall_mem_cons.mpr
          ⟨hbefore, fun old hold => String.lt_trans hbefore (hfirst old hold)⟩)
      rw [get?_cons, hnone]
      rfl
    · rw [get?_cons, ih hrest, get?_cons, get?_cons, if_neg hne]
      split
      · next hname => rw [if_neg fun hfield => hne (hname.trans hfield.symm)]
      · rfl

/-- An entry is what is looked up for its field. -/
theorem mem_entries_iff (h : Ordered errors.entries) :
    (field, texts) ∈ errors.entries ↔ errors.get? field = some texts := by
  obtain ⟨entries⟩ := errors
  induction entries with
  | nil => exact iff_of_false List.not_mem_nil nofun
  | cons first rest ih =>
    obtain ⟨name, given⟩ := first
    obtain ⟨hfirst, hrest⟩ := List.pairwise_cons.mp h
    rw [get?_cons, List.mem_cons, ih hrest, Prod.mk.injEq]
    split
    · next hname =>
      rw [← hname, get?_eq_none hfirst, Option.some.injEq]
      simp [eq_comm]
    · next hname => exact or_iff_right fun hsame => hname hsame.1.symm

/-- Errors in order are the same if the same is looked up for every field. -/
theorem eq_of_get? (h : Ordered errors.entries) (hother : Ordered other.entries)
    (hget : ∀ field, errors.get? field = other.get? field) : errors = other := by
  have hirrefl : Std.Irrefl fun a b : String × List String => a.1 < b.1 := ⟨fun a => lt_irrefl a.1⟩
  have hantisymm : Std.Antisymm fun a b : String × List String => a.1 < b.1 :=
    ⟨fun _ _ hab hba => absurd hba hab.asymm⟩
  have hentries : errors.entries = other.entries := by
    refine List.Pairwise.eq_of_mem_iff h hother fun ⟨field, texts⟩ => ?_
    rw [mem_entries_iff h, mem_entries_iff hother, hget]
  cases errors
  cases other
  exact congrArg _ hentries

/-! ## Messages one after another -/

/-- Messages behind others are about a field behind the others. -/
theorem about_append (field : String) (messages added : List (String × String)) :
    about field (messages ++ added) = about field messages ++ about field added := by
  rw [about, List.filter_append, List.map_append]
  rfl

private theorem about_singleton (m : String × String) :
    about field [m] = if m.1 = field then [m.2] else [] := by
  rw [about, List.filter_singleton]
  by_cases hfield : m.1 = field <;> simp [hfield]

/-- One more message is added to the errors of those before it. -/
theorem ofMessages_append_singleton (messages : List (String × String)) (m : String × String) :
    ofMessages (messages ++ [m]) = (ofMessages messages).add m.1 m.2 := by
  rw [ofMessages, List.foldl_append]
  rfl

/-- The errors of messages are in the order of the fields. -/
theorem ordered_ofMessages (messages : List (String × String)) :
    Ordered (ofMessages messages).entries := by
  induction messages using List.reverseRecOn with
  | nil => exact List.Pairwise.nil
  | append_singleton messages m ih =>
    rw [ofMessages_append_singleton]
    exact ih.insert

/-- The messages about a field are looked up for it, if there are any. -/
theorem get?_ofMessages (messages : List (String × String)) (field : String) :
    (ofMessages messages).get? field =
      if about field messages = [] then none else some (about field messages) := by
  induction messages using List.reverseRecOn generalizing field with
  | nil => rfl
  | append_singleton messages m ih =>
    rw [ofMessages_append_singleton, about_append, about_singleton, add,
      get?_insert (ordered_ofMessages messages), ih, ih]
    by_cases hfield : m.1 = field
    · simp only [if_pos hfield, List.append_eq_nil_iff, List.cons_ne_self, and_false, if_false]
      rw [hfield]
      split
      · next hnone => rw [hnone]; rfl
      · rfl
    · simp only [if_neg hfield, List.append_nil]

/-- The entries of errors are the fields with all messages about them. -/
theorem mem_ofMessages_iff :
    (field, texts) ∈ (ofMessages messages).entries ↔
      texts = about field messages ∧ texts ≠ [] := by
  rw [mem_entries_iff (ordered_ofMessages messages), get?_ofMessages]
  split
  · next hnone => exact iff_of_false nofun fun ⟨htexts, hsome⟩ => hsome (htexts.trans hnone)
  · next hsome =>
    rw [Option.some.injEq, eq_comm]
    exact ⟨fun htexts => ⟨htexts, htexts ▸ hsome⟩, And.left⟩

/-- Errors are empty only if no message was added, so that no request with a failed check goes
on. -/
theorem isEmpty_ofMessages_iff : (ofMessages messages).isEmpty = true ↔ messages = [] := by
  constructor
  · intro hempty
    have hentries : (ofMessages messages).entries = [] := List.isEmpty_iff.mp hempty
    cases messages with
    | nil => rfl
    | cons m rest =>
      have hsome : about m.1 (m :: rest) ≠ [] := by simp [about]
      have hmem := mem_ofMessages_iff.mpr ⟨rfl, hsome⟩
      rw [hentries] at hmem
      cases hmem
  · rintro rfl
    rfl

/-- Messages in any order have the same errors, if those about every field are in the same order. -/
theorem ofMessages_congr (h : ∀ field, about field messages = about field added) :
    ofMessages messages = ofMessages added := by
  refine eq_of_get? (ordered_ofMessages _) (ordered_ofMessages _) fun field => ?_
  rw [get?_ofMessages, get?_ofMessages, h]

/-! ## Tables of failed checks -/

/-- What an entry says of a field comes before what the others say. -/
theorem about_said_cons (field : String) (entry : String × List CheckFailure)
    (table : List (String × List CheckFailure)) :
    about field (said (entry :: table)) =
      (if entry.1 = field then entry.2.map CheckFailure.text else []) ++
        about field (said table) := by
  rw [said, List.flatMap_cons, about_append]
  congr 1
  by_cases hfield : entry.1 = field <;> simp [about, List.filter_map, Function.comp_def, hfield]

/-- In whatever order a table is visited, it says the same of every field. -/
theorem about_said_perm (hkeys : (visited.map (·.1)).Nodup) (h : visited.Perm table)
    (field : String) : about field (said visited) = about field (said table) := by
  induction h with
  | nil => rfl
  | cons entry _ ih => rw [about_said_cons, about_said_cons, ih (List.nodup_cons.mp hkeys).2]
  | swap first second rest =>
    -- at most one of two entries is of the field
    have hne : second.1 ≠ first.1 := fun heq => (List.nodup_cons.mp hkeys).1 (by simp [heq])
    rw [about_said_cons, about_said_cons, about_said_cons, about_said_cons]
    by_cases hfirst : first.1 = field
    · rw [if_neg fun hsecond => hne (hsecond.trans hfirst.symm), List.nil_append, List.nil_append]
    · rw [if_neg hfirst, List.nil_append, List.nil_append]
  | trans hvisited _ ih ih' =>
    exact (ih hkeys).trans (ih' ((hvisited.map _).nodup_iff.mp hkeys))

/-- The errors of a table are those of the messages that it says. -/
theorem ofTable_eq_ofMessages (table : List (String × List CheckFailure)) :
    ofTable table = ofMessages (said table) := by
  simp only [ofTable, ofMessages, said, List.foldl_flatMap, List.foldl_map]

/-- A table in which each field is once has the errors of messages, if it says the same of every
field, in whatever order it is visited. -/
theorem ofTable_eq_of_perm (hkeys : (table.map (·.1)).Nodup) (h : visited.Perm table)
    (hsaid : ∀ field, about field (said table) = about field messages) :
    ofTable visited = ofMessages messages := by
  have hvisited : (visited.map (·.1)).Nodup := (h.map _).nodup_iff.mpr hkeys
  rw [ofTable_eq_ofMessages]
  exact ofMessages_congr fun field => (about_said_perm hvisited h field).trans (hsaid field)

end

end FieldErrors

namespace Check

open FieldErrors (Ordered about ofMessages said)

variable {checks : List Check}

/-- No two checks are of one field. -/
def Separate (checks : List Check) : Prop :=
  checks.Pairwise fun a b => a.field ≠ b.field

/-- What is said of the checks that fail. -/
def failed (checks : List Check) : List (String × String) :=
  (checks.filter fun c => !c.holds).map fun c => (c.field, c.message)

/-- The errors of checks are those of the messages of the checks that fail. -/
theorem errors_eq_ofMessages (checks : List Check) :
    Check.errors checks = ofMessages (failed checks) := by
  rw [Check.errors, ofMessages, failed, List.foldl_map]

/-- The errors of checks are in the order of the fields. -/
theorem ordered_errors (checks : List Check) : Ordered (Check.errors checks).entries := by
  rw [errors_eq_ofMessages]
  exact FieldErrors.ordered_ofMessages _

/-- The messages about a field are those of the checks of the field that fail. -/
theorem mem_about_failed_iff {field message : String} :
    message ∈ about field (failed checks) ↔ ⟨field, false, message⟩ ∈ checks := by
  simp only [about, failed, List.mem_map, List.mem_filter, Prod.exists, decide_eq_true_eq,
    Bool.not_eq_true']
  constructor
  · rintro ⟨_, _, ⟨⟨⟨field', holds, message'⟩, ⟨hmem, rfl⟩, heq⟩, rfl⟩, rfl⟩
    obtain ⟨rfl, rfl⟩ := Prod.mk.inj heq
    exact hmem
  · intro hmem
    exact ⟨field, message, ⟨⟨_, ⟨hmem, rfl⟩, rfl⟩, rfl⟩, rfl⟩

/-- Of separate checks, there is at most one message about a field. -/
theorem length_about_failed_le (field : String) (hseparate : Separate checks) :
    (about field (failed checks)).length ≤ 1 := by
  have hfailed : (failed checks).Pairwise fun a b => a.1 ≠ b.1 :=
    List.pairwise_map.mpr (hseparate.filter _)
  rw [about, List.length_map]
  cases hfound : (failed checks).filter fun m => m.1 = field with
  | nil => exact Nat.zero_le 1
  | cons first rest =>
    cases rest with
    | nil => exact Nat.le_refl 1
    | cons second rest =>
      have hfield : ∀ m ∈ first :: second :: rest, m.1 = field := by
        rw [← hfound]
        exact fun m hm => of_decide_eq_true (List.mem_filter.mp hm).2
      have hne := List.rel_of_pairwise_cons (hfound ▸ hfailed.filter _) List.mem_cons_self
      exact absurd ((hfield first (by simp)).trans (hfield second (by simp)).symm) hne

/-- The errors of separate checks are those that fail, with their messages. -/
theorem mem_errors_iff {field : String} {messages : List String} (hseparate : Separate checks) :
    (field, messages) ∈ (Check.errors checks).entries ↔
      ∃ message, messages = [message] ∧ ⟨field, false, message⟩ ∈ checks := by
  have hlength := length_about_failed_le field hseparate
  simp only [errors_eq_ofMessages, FieldErrors.mem_ofMessages_iff, ← mem_about_failed_iff]
  constructor
  · rintro ⟨rfl, hsome⟩
    obtain ⟨message, hmessage⟩ :=
      List.length_eq_one_iff.mp (Nat.le_antisymm hlength (List.length_pos_of_ne_nil hsome))
    exact ⟨message, hmessage, hmessage ▸ List.mem_singleton_self message⟩
  · rintro ⟨message, rfl, hmem⟩
    obtain ⟨m, hm⟩ := List.length_eq_one_iff.mp
      (Nat.le_antisymm hlength (List.length_pos_of_mem hmem))
    rw [hm, List.mem_singleton] at hmem
    exact ⟨hm ▸ hmem ▸ rfl, List.cons_ne_nil _ _⟩

end Check

end IdentityGateway
