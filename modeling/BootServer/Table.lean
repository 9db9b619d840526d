/-!
# Finite tables

A table is a list of keyed values in which the first value of a key counts. `insert` and `erase`
act on look-ups as on a partial function, and neither ever stores a key twice.
-/

namespace BootServer

/-- A finite map from keys to values. -/
structure Table (κ : Type) (ν : Type) where
  entries : List (κ × ν)
  deriving Repr

namespace Table

variable {κ ν : Type} [DecidableEq κ]

def empty : Table κ ν := ⟨[]⟩

/-- The value stored under a key. -/
def get? (table : Table κ ν) (key : κ) : Option ν :=
  (table.entries.find? fun entry => entry.1 = key).map (·.2)

/-- Remove whatever is stored under a key. -/
def erase (table : Table κ ν) (key : κ) : Table κ ν :=
  ⟨table.entries.filter fun entry => entry.1 ≠ key⟩

/-- Store a value under a key, in place of an earlier one. -/
def insert (table : Table κ ν) (key : κ) (value : ν) : Table κ ν :=
  ⟨(key, value) :: (table.erase key).entries⟩

def keys (table : Table κ ν) : List κ := table.entries.map (·.1)

/-- How many keys are in use. -/
def size (table : Table κ ν) : Nat := table.entries.length

/-- Keep only the entries whose value passes a test. -/
def keepIf (table : Table κ ν) (test : ν → Bool) : Table κ ν :=
  ⟨table.entries.filter fun entry => test entry.2⟩

@[simp] theorem get?_empty (key : κ) : (empty : Table κ ν).get? key = none := rfl

@[simp] theorem get?_erase_self (table : Table κ ν) (key : κ) :
    (table.erase key).get? key = none := by
  simp [get?, erase, List.find?_filter]

theorem get?_erase_of_ne (table : Table κ ν) {key other : κ} (h : other ≠ key) :
    (table.erase key).get? other = table.get? other := by
  simp only [get?, erase, List.find?_filter]
  congr 2
  funext entry
  by_cases he : entry.1 = other
  · simp [he, h]
  · simp [he]

theorem get?_erase (table : Table κ ν) (key other : κ) :
    (table.erase key).get? other = if other = key then none else table.get? other := by
  by_cases h : other = key
  · rw [if_pos h, h, get?_erase_self]
  · rw [if_neg h, get?_erase_of_ne table h]

@[simp] theorem get?_insert_self (table : Table κ ν) (key : κ) (value : ν) :
    (table.insert key value).get? key = some value := by
  simp [get?, insert]

theorem get?_insert_of_ne (table : Table κ ν) {key other : κ} (value : ν) (h : other ≠ key) :
    (table.insert key value).get? other = table.get? other := by
  rw [← get?_erase_of_ne table h]
  simp [get?, insert, Ne.symm h]

theorem get?_insert (table : Table κ ν) (key : κ) (value : ν) (other : κ) :
    (table.insert key value).get? other = if other = key then some value else table.get? other := by
  by_cases h : other = key
  · rw [if_pos h, h, get?_insert_self]
  · rw [if_neg h, get?_insert_of_ne table value h]

theorem mem_entries_of_get? {table : Table κ ν} {key : κ} {value : ν}
    (h : table.get? key = some value) : (key, value) ∈ table.entries := by
  obtain ⟨entry, hfind, rfl⟩ := Option.map_eq_some_iff.mp h
  have hkey : entry.1 = key := by simpa using List.find?_some hfind
  subst hkey
  exact List.mem_of_find?_eq_some hfind

theorem mem_entries_of_erase {table : Table κ ν} {key : κ} {entry : κ × ν}
    (h : entry ∈ (table.erase key).entries) : entry ∈ table.entries :=
  (List.mem_filter.mp h).1

theorem mem_entries_of_insert {table : Table κ ν} {key : κ} {value : ν} {entry : κ × ν}
    (h : entry ∈ (table.insert key value).entries) :
    entry = (key, value) ∨ entry ∈ table.entries :=
  (List.mem_cons.mp h).imp_right mem_entries_of_erase

/-- Every key is stored once. -/
def Distinct (table : Table κ ν) : Prop := table.keys.Nodup

omit [DecidableEq κ] in
theorem distinct_empty : (empty : Table κ ν).Distinct := by simp [Distinct, empty, keys]

theorem distinct_erase {table : Table κ ν} (h : table.Distinct) (key : κ) :
    (table.erase key).Distinct :=
  List.Nodup.sublist (List.Sublist.map _ List.filter_sublist) h

theorem distinct_insert {table : Table κ ν} (h : table.Distinct) (key : κ) (value : ν) :
    (table.insert key value).Distinct := by
  have := distinct_erase h key
  simp_all [Distinct, keys, insert, erase]

omit [DecidableEq κ] in
theorem distinct_keepIf {table : Table κ ν} (h : table.Distinct) (test : ν → Bool) :
    (table.keepIf test).Distinct :=
  List.Nodup.sublist (List.Sublist.map _ List.filter_sublist) h

/-- What is stored under a key, when every key is stored once. -/
theorem get?_eq_some_iff {table : Table κ ν} (h : table.Distinct) {key : κ} {value : ν} :
    table.get? key = some value ↔ (key, value) ∈ table.entries := by
  refine ⟨mem_entries_of_get?, ?_⟩
  obtain ⟨entries⟩ := table
  induction entries with
  | nil => exact fun hmem => absurd hmem List.not_mem_nil
  | cons entry entries ih =>
      obtain ⟨hnew, hdistinct⟩ := List.nodup_cons.mp h
      intro hmem
      rcases List.mem_cons.mp hmem with rfl | hmem
      · simp [get?]
      · have hkey : entry.1 ≠ key := by
          rintro rfl
          exact hnew (List.mem_map.mpr ⟨(entry.1, value), hmem, rfl⟩)
        have hrest := ih hdistinct hmem
        simpa [get?, hkey] using hrest

theorem get?_keepIf {table : Table κ ν} (h : table.Distinct) (test : ν → Bool) (key : κ) :
    (table.keepIf test).get? key = (table.get? key).filter test := by
  apply Option.ext
  intro value
  rw [get?_eq_some_iff (distinct_keepIf h test), Option.filter_eq_some_iff, get?_eq_some_iff h,
    keepIf, List.mem_filter]

end Table

end BootServer
