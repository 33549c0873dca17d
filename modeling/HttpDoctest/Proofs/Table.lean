import HttpDoctest.Table
import Mathlib.Data.List.Induction

set_option autoImplicit false

/-! # Tables from lists

A table that is made from a list has no other entries than the list, and exactly these if their keys
are pairwise different. A key that stands in the list more than once keeps its first place and gets
its last value (`Table.lastWins_ofList`).
-/

namespace HttpDoctest

variable {α : Type}

theorem putEntry_of_not_mem {key : String} (value : α) {entries : List (String × α)}
    (h : key ∉ entries.map Prod.fst) : putEntry key value entries = entries ++ [(key, value)] := by
  induction entries with
  | nil => rfl
  | cons entry entries ih =>
      rw [List.map_cons, List.mem_cons, not_or] at h
      rw [putEntry, if_neg (Ne.symm h.1), ih h.2, List.cons_append]

/-- An entry that is there after a put was put, or was there before. -/
theorem mem_of_mem_putEntry {key : String} {value : α} {entry : String × α}
    {entries : List (String × α)} (h : entry ∈ putEntry key value entries) :
    entry = (key, value) ∨ entry ∈ entries := by
  induction entries with
  | nil => exact .inl (List.mem_singleton.1 h)
  | cons first entries ih =>
      rw [putEntry] at h
      split at h
      · rcases List.mem_cons.1 h with rfl | h
        · exact .inl rfl
        · exact .inr (List.mem_cons_of_mem _ h)
      · rcases List.mem_cons.1 h with rfl | h
        · exact .inr List.mem_cons_self
        · exact (ih h).imp_right (List.mem_cons_of_mem _)

theorem mem_of_lookup_eq_some {entries : List (String × α)} {key : String} {value : α}
    (h : entries.lookup key = some value) : (key, value) ∈ entries := by
  obtain ⟨front, back, rfl, -⟩ := List.lookup_eq_some_iff.1 h
  exact List.mem_append_right _ List.mem_cons_self

/-- Where no key stands twice, the value that is found under a key is the one that stands there. -/
theorem lookup_of_mem {entries : List (String × α)} {key : String} {value : α}
    (h : (entries.map Prod.fst).Nodup) (hmem : (key, value) ∈ entries) :
    entries.lookup key = some value := by
  obtain ⟨front, back, rfl⟩ := List.append_of_mem hmem
  refine List.lookup_eq_some_iff.2 ⟨front, back, rfl, fun entry hentry => ?_⟩
  rw [List.map_append, List.map_cons, List.nodup_append] at h
  exact bne_iff_ne.2 (h.2.2 _ (List.mem_map_of_mem hentry) _ List.mem_cons_self).symm

/-- What is put under a key first leaves no trace of itself. -/
theorem putEntry_putEntry (key : String) (first second : α) (entries : List (String × α)) :
    putEntry key second (putEntry key first entries) = putEntry key second entries := by
  induction entries with
  | nil => exact if_pos rfl
  | cons entry entries ih =>
      rw [putEntry, putEntry]
      by_cases hkey : entry.1 = key
      · rw [if_pos hkey, if_pos hkey, putEntry, if_pos rfl]
      · rw [if_neg hkey, if_neg hkey, putEntry, if_neg hkey, ih]

namespace Table

theorem ext {table table' : Table α} (h : table.entries = table'.entries) : table = table' := by
  cases table
  cases table'
  cases h
  rfl

theorem put_put (table : Table α) (key : String) (first second : α) :
    (table.put key first).put key second = table.put key second :=
  ext (putEntry_putEntry key first second table.entries)

theorem keys_put_of_not_mem {table : Table α} {key : String} (h : key ∉ table.keys) (value : α) :
    (table.put key value).keys = table.keys ++ [key] := by
  rw [keys, entries_put, map_fst_putEntry, ← keys, if_neg h]

theorem get?_of_not_mem_keys {table : Table α} {key : String} (h : key ∉ table.keys) :
    table.get? key = none := by
  refine List.lookup_eq_none_iff.2 fun entry hentry => bne_iff_ne.2 ?_
  rintro rfl
  exact h (List.mem_map_of_mem hentry)

theorem entries_foldl_put {entries : List (String × α)} (table : Table α)
    (h : ((table.entries ++ entries).map Prod.fst).Nodup) :
    (entries.foldl (fun table entry => table.put entry.1 entry.2) table).entries =
      table.entries ++ entries := by
  induction entries generalizing table with
  | nil => exact (List.append_nil _).symm
  | cons entry entries ih =>
      have hsplit : table.entries ++ entry :: entries = table.entries ++ [entry] ++ entries := by
        rw [List.append_assoc, List.singleton_append]
      have hkey : entry.1 ∉ table.entries.map Prod.fst := by
        intro hmem
        rw [List.map_append, List.map_cons] at h
        exact (List.nodup_append.1 h).2.2 _ hmem _ List.mem_cons_self rfl
      have hput : (table.put entry.1 entry.2).entries = table.entries ++ [entry] :=
        putEntry_of_not_mem entry.2 hkey
      rw [hsplit] at h ⊢
      rw [List.foldl_cons, ih _ (hput ▸ h), hput]

theorem ofList_of_nodup {entries : List (String × α)} (h : (entries.map Prod.fst).Nodup) :
    ofList entries = ⟨entries, h⟩ :=
  ext (entries_foldl_put empty h)

/-- A table is its keys with what is found under them. -/
theorem entries_eq_map_keys (table : Table α) (default : α) :
    table.entries = table.keys.map fun key => (key, (table.get? key).getD default) := by
  rw [keys, List.map_map]
  refine (List.map_id _).symm.trans (List.map_congr_left fun entry hentry => ?_)
  have hfound : table.get? entry.1 = some entry.2 := lookup_of_mem table.nodup_keys hentry
  rw [Function.comp_apply, hfound]
  rfl

/-- Two tables with the same keys in the same order and the same value under each key are one. -/
theorem ext_get? {table table' : Table α} (hkeys : table.keys = table'.keys)
    (hget : ∀ key, table.get? key = table'.get? key) : table = table' := by
  refine ext ?_
  cases hentries : table.entries with
  | nil =>
      rw [keys, keys, hentries, List.map_nil, eq_comm, List.map_eq_nil_iff] at hkeys
      exact hkeys.symm
  | cons entry _ =>
      -- the value of the first entry serves as the default that no key comes to
      rw [← hentries, table.entries_eq_map_keys entry.2, table'.entries_eq_map_keys entry.2, hkeys]
      simp only [hget]

theorem mem_keys_put {table : Table α} {key other : String} {value : α} :
    other ∈ (table.put key value).keys ↔ other = key ∨ other ∈ table.keys := by
  rw [keys, keys, entries_put, map_fst_putEntry]
  split
  · next hmem =>
    constructor
    · exact .inr
    · rintro (rfl | h)
      · exact hmem
      · exact h
  · rw [List.mem_append, List.mem_singleton, or_comm]

theorem mem_keys_ofList {entries : List (String × α)} {key : String} :
    key ∈ (ofList entries).keys ↔ key ∈ entries.map Prod.fst := by
  have hfold (table : Table α) :
      key ∈ (entries.foldl (fun table entry => table.put entry.1 entry.2) table).keys ↔
        key ∈ table.keys ∨ key ∈ entries.map Prod.fst := by
    induction entries generalizing table with
    | nil => simp
    | cons entry entries ih =>
        rw [List.foldl_cons, ih, mem_keys_put, List.map_cons, List.mem_cons,
          or_comm (a := key = entry.1), or_assoc]
  rw [ofList, hfold]
  exact or_iff_right (List.not_mem_nil)

theorem mem_of_mem_foldl_put {entries : List (String × α)} {entry : String × α} (table : Table α)
    (h : entry ∈ (entries.foldl (fun table entry => table.put entry.1 entry.2) table).entries) :
    entry ∈ table.entries ∨ entry ∈ entries := by
  induction entries generalizing table with
  | nil => exact .inl h
  | cons first entries ih =>
      rcases ih (table.put first.1 first.2) h with hput | hrest
      · rcases mem_of_mem_putEntry hput with rfl | hbefore
        · exact .inr List.mem_cons_self
        · exact .inl hbefore
      · exact .inr (List.mem_cons_of_mem _ hrest)

/-- The entries of a table that is made from a list are some of the list. -/
theorem mem_of_mem_ofList {entries : List (String × α)} {entry : String × α}
    (h : entry ∈ (ofList entries).entries) : entry ∈ entries :=
  (mem_of_mem_foldl_put empty h).resolve_left List.not_mem_nil

/-! ## Keys that come again -/

/-- Whether a table has one entry for each key of a list, in the order in which the keys first come,
with the value that comes last. -/
structure LastWins (entries : List (String × α)) (table : Table α) : Prop where
  keys : table.keys = (entries.map Prod.fst).eraseDups
  get? : ∀ key, table.get? key = entries.reverse.lookup key

theorem ofList_concat (entries : List (String × α)) (entry : String × α) :
    ofList (entries ++ [entry]) = (ofList entries).put entry.1 entry.2 := by
  rw [ofList, List.foldl_append]
  rfl

/-- Keys that are put one after the other stand in the order in which they first come. -/
theorem keys_put_eraseDups {table : Table α} {names : List String}
    (h : table.keys = names.eraseDups) (key : String) (value : α) :
    (table.put key value).keys = (names ++ [key]).eraseDups := by
  rw [keys, entries_put, map_fst_putEntry, ← keys, h, List.eraseDups_append]
  by_cases hmem : key ∈ names
  · simp [List.removeAll, hmem]
  · simp [List.removeAll, hmem, List.eraseDups_cons]

theorem lastWins_ofList (entries : List (String × α)) : LastWins entries (ofList entries) := by
  induction entries using List.reverseRecOn with
  | nil => exact ⟨rfl, fun _ => rfl⟩
  | append_singleton entries entry ih =>
      obtain ⟨last, value⟩ := entry
      rw [ofList_concat]
      constructor
      · rw [keys_put_eraseDups ih.keys, List.map_append, List.map_singleton]
      · intro key
        rw [get?_put, ih.get?, List.reverse_append, List.reverse_singleton, List.singleton_append,
          List.lookup_cons]
        by_cases hkey : key = last
        · rw [if_pos hkey, beq_iff_eq.2 hkey]
        · rw [if_neg hkey, beq_false_of_ne hkey]

theorem LastWins.eq_ofList {entries : List (String × α)} {table : Table α}
    (h : LastWins entries table) : table = ofList entries :=
  ext_get? (h.keys.trans (lastWins_ofList entries).keys.symm) fun key =>
    (h.get? key).trans ((lastWins_ofList entries).get? key).symm

end Table

end HttpDoctest
