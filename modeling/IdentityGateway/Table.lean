/-!
# Tables

Finite maps as lists of entries with distinct keys. Putting an entry takes away the one it
replaces, and a table holds an entry exactly if its key is found.
-/

namespace IdentityGateway

/-- A finite map. -/
structure Table (κ β : Type) where
  entries : List (κ × β)
  /-- No key has two entries. -/
  distinct : (entries.map Prod.fst).Nodup
  deriving DecidableEq, Repr

namespace Table

variable {κ β : Type}

/-- The entries of a list that pass a test have distinct keys if all have. -/
theorem distinct_filter {entries : List (κ × β)} (hdistinct : (entries.map Prod.fst).Nodup)
    (test : κ × β → Bool) : ((entries.filter test).map Prod.fst).Nodup :=
  (List.Sublist.map Prod.fst List.filter_sublist).nodup hdistinct

/-- The table without entries. -/
def empty : Table κ β := ⟨[], List.nodup_nil⟩

/-- The entries whose values pass a test. -/
def keep (t : Table κ β) (test : β → Bool) : Table κ β :=
  ⟨t.entries.filter fun e => test e.2, distinct_filter t.distinct _⟩

/-- The number of entries. -/
def size (t : Table κ β) : Nat :=
  t.entries.length

variable [DecidableEq κ]

/-- The value of a key. -/
def get? (t : Table κ β) (key : κ) : Option β :=
  (t.entries.find? fun e => e.1 = key).map (·.2)

/-- Whether a key has a value. -/
def contains (t : Table κ β) (key : κ) : Bool :=
  (t.get? key).isSome

/-- The table without a key. -/
def erase (t : Table κ β) (key : κ) : Table κ β :=
  ⟨t.entries.filter fun e => e.1 ≠ key, distinct_filter t.distinct _⟩

/-- A key taken away has no entry. -/
theorem not_mem_keys_erase (t : Table κ β) (key : κ) :
    key ∉ (t.erase key).entries.map Prod.fst := by
  simp [erase]

/-- The table with a value for a key. -/
def insert (t : Table κ β) (key : κ) (value : β) : Table κ β :=
  ⟨(key, value) :: (t.erase key).entries,
    List.nodup_cons.mpr ⟨not_mem_keys_erase t key, (t.erase key).distinct⟩⟩

/-- The table with every entry of a list, of which a later one counts. -/
def insertAll (t : Table κ β) (entries : List (κ × β)) : Table κ β :=
  entries.foldl (fun t e => t.insert e.1 e.2) t

/-- The first entry of a key is its only one. -/
theorem find?_eq_some_of_mem {entries : List (κ × β)} {key : κ} {value : β}
    (hdistinct : (entries.map Prod.fst).Nodup) (hmem : (key, value) ∈ entries) :
    entries.find? (fun e => e.1 = key) = some (key, value) := by
  induction entries with
  | nil => cases hmem
  | cons e entries ih =>
    rw [List.map_cons, List.nodup_cons] at hdistinct
    rcases List.mem_cons.mp hmem with rfl | hmem
    · exact List.find?_cons_of_pos (by simp)
    · have hne : e.1 ≠ key := fun h => hdistinct.1 (h ▸ List.mem_map.mpr ⟨_, hmem, rfl⟩)
      rw [List.find?_cons_of_neg (by simpa using hne)]
      exact ih hdistinct.2 hmem

/-- A table holds exactly the entries whose values are found. -/
theorem mem_entries_iff {t : Table κ β} {key : κ} {value : β} :
    (key, value) ∈ t.entries ↔ t.get? key = some value := by
  constructor
  · intro hmem
    rw [get?, find?_eq_some_of_mem t.distinct hmem]
    rfl
  · intro hget
    obtain ⟨e, hfind, rfl⟩ := Option.map_eq_some_iff.mp hget
    have hkey : e.1 = key := by simpa using List.find?_some hfind
    exact hkey ▸ List.mem_of_find?_eq_some hfind

/-- Nothing is found in the empty table. -/
@[simp] theorem get?_empty (key : κ) : (empty : Table κ β).get? key = none := rfl

/-- Only values that pass are found among those kept. -/
@[simp] theorem get?_keep (t : Table κ β) (test : β → Bool) (key : κ) :
    (t.keep test).get? key = (t.get? key).filter test := by
  apply Option.ext
  intro value
  rw [Option.filter_eq_some_iff, ← mem_entries_iff, ← mem_entries_iff]
  simp [keep]

/-- A key taken away is not found, and the others are found as before. -/
theorem get?_erase (t : Table κ β) (key other : κ) :
    (t.erase key).get? other = if other = key then none else t.get? other := by
  apply Option.ext
  intro value
  rw [← mem_entries_iff]
  by_cases hkey : other = key <;> simp [erase, hkey, mem_entries_iff]

/-- A value just put is found, and the other keys keep theirs. -/
theorem get?_insert (t : Table κ β) (key other : κ) (value : β) :
    (t.insert key value).get? other = if other = key then some value else t.get? other := by
  have herase := get?_erase t key other
  by_cases hkey : other = key
  · simp [get?, insert, hkey]
  · rw [if_neg hkey] at herase ⊢
    rw [← herase, get?, get?, insert]
    rw [List.find?_cons_of_neg (by simpa using fun h => hkey h.symm)]

/-- A key that is not among those put is found as before. -/
theorem get?_insertAll_of_not_mem {entries : List (κ × β)} {key : κ} (t : Table κ β)
    (hkey : key ∉ entries.map Prod.fst) : (t.insertAll entries).get? key = t.get? key := by
  induction entries generalizing t with
  | nil => rfl
  | cons e entries ih =>
    rw [List.map_cons, List.mem_cons, not_or] at hkey
    have hrest := ih (t.insert e.1 e.2) hkey.2
    rw [get?_insert, if_neg hkey.1] at hrest
    exact hrest

/-- An entry among those put is found if their keys are distinct. -/
theorem get?_insertAll_of_mem {entries : List (κ × β)} {key : κ} {value : β} (t : Table κ β)
    (hdistinct : (entries.map Prod.fst).Nodup) (hmem : (key, value) ∈ entries) :
    (t.insertAll entries).get? key = some value := by
  induction entries generalizing t with
  | nil => cases hmem
  | cons e entries ih =>
    rw [List.map_cons, List.nodup_cons] at hdistinct
    rcases List.mem_cons.mp hmem with rfl | hmem
    · have hrest := get?_insertAll_of_not_mem (t.insert key value) hdistinct.1
      rw [get?_insert, if_pos rfl] at hrest
      exact hrest
    · exact ih (t.insert e.1 e.2) hdistinct.2 hmem

/-- What is found after putting entries is among them or was there before. -/
theorem mem_or_of_get?_insertAll {entries : List (κ × β)} {key : κ} {value : β} {t : Table κ β}
    (hget : (t.insertAll entries).get? key = some value) :
    (key, value) ∈ entries ∨ t.get? key = some value := by
  induction entries generalizing t with
  | nil => exact Or.inr hget
  | cons e entries ih =>
    rcases ih hget with hmem | hbefore
    · exact Or.inl (List.mem_cons_of_mem e hmem)
    · rw [get?_insert] at hbefore
      split at hbefore
      · next hkey => exact Or.inl (by simp [hkey, ← Option.some.inj hbefore])
      · exact Or.inr hbefore

end Table

end IdentityGateway
