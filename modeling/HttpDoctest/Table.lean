set_option autoImplicit false

/-! # Tables

A table maps texts to values and keeps its keys in the order in which they first arrived. A
key that is put again keeps its place and gets the new value.
-/

namespace HttpDoctest

variable {α : Type}

/-! ## Lists of entries -/

/-- Replaces the value under `key`, or adds an entry at the end if there is none. -/
def putEntry (key : String) (value : α) : List (String × α) → List (String × α)
  | [] => [(key, value)]
  | (k, v) :: entries =>
      if k = key then (key, value) :: entries else (k, v) :: putEntry key value entries

theorem map_fst_putEntry (key : String) (value : α) (entries : List (String × α)) :
    (putEntry key value entries).map Prod.fst =
      if key ∈ entries.map Prod.fst then entries.map Prod.fst
      else entries.map Prod.fst ++ [key] := by
  induction entries with
  | nil => simp [putEntry]
  | cons e entries ih =>
      obtain ⟨k, v⟩ := e
      by_cases h : k = key
      · simp [putEntry, h]
      · have h' : ¬ key = k := fun e => h e.symm
        simp only [putEntry, h, if_false, List.map_cons, ih, List.mem_cons, h', false_or]
        split <;> simp

theorem nodup_putEntry {key : String} {value : α} {entries : List (String × α)}
    (h : (entries.map Prod.fst).Nodup) : ((putEntry key value entries).map Prod.fst).Nodup := by
  rw [map_fst_putEntry]
  split
  · exact h
  · rename_i hk
    exact List.nodup_append.2 ⟨h, by simp, by simpa using fun x v hx hxk => hk (by
      subst hxk; exact List.mem_map.2 ⟨_, hx, rfl⟩)⟩

theorem lookup_putEntry (key other : String) (value : α) (entries : List (String × α)) :
    (putEntry key value entries).lookup other =
      if other = key then some value else entries.lookup other := by
  induction entries with
  | nil =>
      by_cases h : other = key
      · simp [putEntry, h]
      · simp [putEntry, List.lookup_cons, h, beq_false_of_ne h]
  | cons e entries ih =>
      obtain ⟨k, v⟩ := e
      by_cases hk : k = key
      · by_cases h : other = key
        · simp [putEntry, hk, h]
        · simp [putEntry, List.lookup_cons, hk, h, beq_false_of_ne h]
      · by_cases h : other = k
        · subst h
          simp [putEntry, hk]
        · simp [putEntry, List.lookup_cons, hk, beq_false_of_ne h, ih]

/-! ## Tables -/

/-- Entries with pairwise different keys, in order of arrival. -/
structure Table (α : Type) where
  entries : List (String × α)
  nodup_keys : (entries.map Prod.fst).Nodup
deriving DecidableEq

namespace Table

/-- The table without entries. -/
def empty : Table α := ⟨[], List.nodup_nil⟩

instance : EmptyCollection (Table α) := ⟨empty⟩

instance : Inhabited (Table α) := ⟨empty⟩

/-- The value under a key. -/
def get? (table : Table α) (key : String) : Option α :=
  table.entries.lookup key

/-- Whether a key has a value. -/
def contains (table : Table α) (key : String) : Bool :=
  (table.get? key).isSome

/-- Puts a value under a key: in place if the key is there, at the end otherwise. -/
def put (table : Table α) (key : String) (value : α) : Table α :=
  ⟨putEntry key value table.entries, nodup_putEntry table.nodup_keys⟩

/-- The table that results from putting the entries one after the other. -/
def ofList (entries : List (String × α)) : Table α :=
  entries.foldl (fun table entry => table.put entry.1 entry.2) empty

/-- The keys in order. -/
def keys (table : Table α) : List String :=
  table.entries.map Prod.fst

@[simp] theorem entries_empty : (empty : Table α).entries = [] := rfl

@[simp] theorem entries_put (table : Table α) (key : String) (value : α) :
    (table.put key value).entries = putEntry key value table.entries := rfl

/-- A value that was put is found under its key, and nothing else changes. -/
theorem get?_put (table : Table α) (key other : String) (value : α) :
    (table.put key value).get? other = if other = key then some value else table.get? other :=
  lookup_putEntry key other value table.entries

end Table

end HttpDoctest
