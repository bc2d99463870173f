/-
Finite maps that remember the order of insertion.

A map is a list of entries in which no key occurs twice.  `insert` gives a new key the last
place and an old key its new value in the old place, so the order of the keys is the order in
which they were first inserted.
-/
namespace AmpComponents

structure OrderedMap (κ α : Type) where
  entries : List (κ × α)
  nodup_keys : (entries.map (·.1)).Nodup

namespace OrderedMap

variable {κ α : Type}

/-! ## Entry lists -/

section Entries

variable [DecidableEq κ]

/-- The entries with `key` bound to `value`, in the place the key has or at the end. -/
def put (key : κ) (value : α) : List (κ × α) → List (κ × α)
  | [] => [(key, value)]
  | entry :: rest =>
    if entry.1 = key then (key, value) :: rest else entry :: put key value rest

theorem map_fst_put (key : κ) (value : α) (entries : List (κ × α)) :
    (put key value entries).map (·.1) =
      if key ∈ entries.map (·.1) then entries.map (·.1) else entries.map (·.1) ++ [key] := by
  induction entries with
  | nil => rfl
  | cons entry rest ih =>
    by_cases h : entry.1 = key
    · simp [put, h]
    · have hne : ¬key = entry.1 := fun e => h e.symm
      simp only [put, if_neg h, List.map_cons, ih, List.mem_cons, hne, false_or]
      split <;> rfl

theorem nodup_put {key : κ} {value : α} {entries : List (κ × α)}
    (h : (entries.map (·.1)).Nodup) : ((put key value entries).map (·.1)).Nodup := by
  rw [map_fst_put]
  split
  · exact h
  · next hnew =>
    refine List.nodup_append.2 ⟨h, by simp, ?_⟩
    intro a ha b hb
    rw [List.mem_singleton] at hb
    exact fun e => hnew (by rw [← hb, ← e]; exact ha)

end Entries

/-! ## The map -/

def empty : OrderedMap κ α := ⟨[], List.nodup_nil⟩

instance : Inhabited (OrderedMap κ α) := ⟨empty⟩

def keys (m : OrderedMap κ α) : List κ := m.entries.map (·.1)

def values (m : OrderedMap κ α) : List α := m.entries.map (·.2)

def size (m : OrderedMap κ α) : Nat := m.entries.length

def isEmpty (m : OrderedMap κ α) : Bool := m.entries.isEmpty

section Keyed

variable [DecidableEq κ]

def find? (m : OrderedMap κ α) (key : κ) : Option α := m.entries.lookup key

def contains (m : OrderedMap κ α) (key : κ) : Bool := m.entries.any (·.1 = key)

def insert (m : OrderedMap κ α) (key : κ) (value : α) : OrderedMap κ α :=
  ⟨put key value m.entries, nodup_put m.nodup_keys⟩

def erase (m : OrderedMap κ α) (key : κ) : OrderedMap κ α :=
  ⟨m.entries.filter (·.1 ≠ key), m.nodup_keys.sublist (List.filter_sublist.map _)⟩

/-- The entries inserted one after the other. -/
def ofList (entries : List (κ × α)) : OrderedMap κ α :=
  entries.foldl (fun m entry => m.insert entry.1 entry.2) empty

end Keyed

/-! ## Lookups

What each operation does to `find?` and to the keys. -/

@[ext] theorem ext {m n : OrderedMap κ α} (h : m.entries = n.entries) : m = n := by
  cases m; cases n; cases h; rfl

@[simp] theorem keys_empty : (empty : OrderedMap κ α).keys = [] := rfl

variable [DecidableEq κ]

@[simp] theorem find?_empty (key : κ) : (empty : OrderedMap κ α).find? key = none := rfl

theorem keys_insert (m : OrderedMap κ α) (key : κ) (value : α) :
    (m.insert key value).keys = if key ∈ m.keys then m.keys else m.keys ++ [key] :=
  map_fst_put key value m.entries

theorem lookup_put_self (key : κ) (value : α) (entries : List (κ × α)) :
    (put key value entries).lookup key = some value := by
  induction entries with
  | nil => simp [put]
  | cons entry rest ih =>
    by_cases h : entry.1 = key
    · simp [put, h]
    · have hne : (key == entry.1) = false := by simpa using fun e => h e.symm
      simp only [put, if_neg h]
      rw [List.lookup_cons, hne]
      exact ih

theorem lookup_put_of_ne {key other : κ} (h : other ≠ key) (value : α) (entries : List (κ × α)) :
    (put key value entries).lookup other = entries.lookup other := by
  have hbeq : (other == key) = false := by simpa using h
  induction entries with
  | nil => simp [put, List.lookup_cons, hbeq]
  | cons entry rest ih =>
    obtain ⟨k, v⟩ := entry
    by_cases he : k = key
    · subst he
      simp [put, List.lookup_cons, hbeq]
    · simp only [put, if_neg he, List.lookup_cons, ih]

@[simp] theorem find?_insert_self (m : OrderedMap κ α) (key : κ) (value : α) :
    (m.insert key value).find? key = some value :=
  lookup_put_self key value m.entries

theorem find?_insert_of_ne {key other : κ} (h : other ≠ key) (m : OrderedMap κ α) (value : α) :
    (m.insert key value).find? other = m.find? other :=
  lookup_put_of_ne h value m.entries

theorem contains_iff {m : OrderedMap κ α} {key : κ} : m.contains key = true ↔ key ∈ m.keys := by
  simp only [contains, keys, List.any_eq_true, List.mem_map, decide_eq_true_eq]

theorem put_of_not_mem {key : κ} {entries : List (κ × α)} (h : key ∉ entries.map (·.1))
    (value : α) : put key value entries = entries ++ [(key, value)] := by
  induction entries with
  | nil => rfl
  | cons entry rest ih =>
    rw [List.map_cons, List.mem_cons, not_or] at h
    rw [put, if_neg (fun e => h.1 e.symm), ih h.2, List.cons_append]

/-- A new key takes the last place. -/
theorem entries_insert_of_not_mem {m : OrderedMap κ α} {key : κ} (h : key ∉ m.keys) (value : α) :
    (m.insert key value).entries = m.entries ++ [(key, value)] :=
  put_of_not_mem h value

/-- No key occurs twice, so the value in an entry is the one found under its key. -/
theorem find?_eq_some_of_mem {m : OrderedMap κ α} {entry : κ × α} (h : entry ∈ m.entries) :
    m.find? entry.1 = some entry.2 := by
  obtain ⟨entries, nodup⟩ := m
  show entries.lookup entry.1 = some entry.2
  change entry ∈ entries at h
  induction entries with
  | nil => cases h
  | cons first rest ih =>
    rw [List.map_cons, List.nodup_cons] at nodup
    rcases List.mem_cons.1 h with rfl | h
    · rw [List.lookup_cons, beq_self_eq_true]
    · have hne : entry.1 ≠ first.1 := fun e => nodup.1 (e ▸ List.mem_map_of_mem h)
      rw [List.lookup_cons, beq_false_of_ne hne]
      exact ih nodup.2 h

theorem find?_erase_of_ne {key other : κ} (h : other ≠ key) (m : OrderedMap κ α) :
    (m.erase key).find? other = m.find? other := by
  show (m.entries.filter (·.1 ≠ key)).lookup other = m.entries.lookup other
  induction m.entries with
  | nil => rfl
  | cons first rest ih =>
    by_cases hk : first.1 = key
    · have hne : other ≠ first.1 := fun e => h (e.trans hk)
      rw [List.filter_cons_of_neg (by simpa using hk), ih, List.lookup_cons, beq_false_of_ne hne]
    · rw [List.filter_cons_of_pos (by simpa using hk), List.lookup_cons, List.lookup_cons, ih]

@[simp] theorem find?_erase_self (m : OrderedMap κ α) (key : κ) :
    (m.erase key).find? key = none := by
  show (m.entries.filter (·.1 ≠ key)).lookup key = none
  refine List.lookup_eq_none_iff.2 fun entry hentry => ?_
  have hne : entry.1 ≠ key := by simpa using (List.mem_filter.1 hentry).2
  simpa using fun e => hne e.symm

end OrderedMap
end AmpComponents
