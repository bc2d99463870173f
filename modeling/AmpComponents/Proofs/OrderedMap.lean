/-
Maps after several operations.

A key keeps the place of its first insertion and has the value of its last, so a map that is filled
entry by entry is told by its entries alone: which keys they have, in the order of first occurrence
(`keys_ofList`), and which value each has last (`find?_ofList`).

Erasing a key undoes an insertion under it, and it takes no part in one under another key
(`erase_insert_self`, `erase_insert_of_ne`).
-/
import AmpComponents.OrderedMap
import AmpComponents.Proofs.FirstOccurrences

namespace AmpComponents
namespace OrderedMap

section Lookups

variable {κ α : Type} [DecidableEq κ]

theorem find?_eq_none_iff {m : OrderedMap κ α} {key : κ} : m.find? key = none ↔ key ∉ m.keys := by
  constructor
  · intro hnone hmem
    obtain ⟨entry, hentry, rfl⟩ := List.mem_map.1 hmem
    rw [find?_eq_some_of_mem hentry] at hnone
    cases hnone
  · intro hnew
    refine List.lookup_eq_none_iff.2 fun entry hentry => bne_iff_ne.2 ?_
    rintro rfl
    exact hnew (List.mem_map_of_mem hentry)

theorem contains_eq_isSome (m : OrderedMap κ α) (key : κ) :
    m.contains key = (m.find? key).isSome := by
  rw [Bool.eq_iff_iff, contains_iff, Option.isSome_iff_ne_none, ne_eq, find?_eq_none_iff, not_not]

/-- The entries are told by the keys and by what is found under them. -/
theorem entries_eq_map {m : OrderedMap κ α} {f : κ → α}
    (h : ∀ key ∈ m.keys, m.find? key = some (f key)) :
    m.entries = m.keys.map fun key => (key, f key) := by
  rw [keys, List.map_map]
  refine (List.map_congr_left fun entry hentry => ?_).trans (List.map_id _) |>.symm
  have hfound := h entry.1 (List.mem_map_of_mem hentry)
  rw [find?_eq_some_of_mem hentry] at hfound
  exact Prod.ext rfl (Option.some.inj hfound).symm

theorem keys_prefix_insert (m : OrderedMap κ α) (key : κ) (value : α) :
    m.keys <+: (m.insert key value).keys := by
  rw [keys_insert]
  split
  · exact List.prefix_rfl
  · exact List.prefix_append _ _

end Lookups

/-! ## Maps that are filled entry by entry -/

section Filling

variable {κ α : Type} [DecidableEq κ]

theorem ofList_concat (entries : List (κ × α)) (entry : κ × α) :
    ofList (entries ++ [entry]) = (ofList entries).insert entry.1 entry.2 := by
  rw [ofList, List.foldl_append]
  rfl

/-- The last value given to a key is the one that stays. -/
theorem find?_ofList (entries : List (κ × α)) (key : κ) :
    (ofList entries).find? key = (entries.filter (·.1 = key)).getLast?.map (·.2) := by
  induction entries using List.reverseRecOn with
  | nil => rfl
  | append_singleton entries entry ih =>
    rw [ofList_concat, List.filter_append]
    by_cases h : entry.1 = key
    · rw [h, find?_insert_self, List.filter_cons_of_pos (by simpa using h), List.filter_nil,
        List.getLast?_concat, Option.map_some]
    · rw [find?_insert_of_ne (Ne.symm h), ih, List.filter_cons_of_neg (by simpa using h),
        List.filter_nil, List.append_nil]

end Filling

/-- A key stands where it was first inserted. -/
theorem keys_ofList {α : Type} (entries : List (String × α)) :
    (ofList entries).keys = (entries.map (·.1)).eraseDups := by
  induction entries using List.reverseRecOn with
  | nil => rfl
  | append_singleton entries entry ih =>
    rw [ofList_concat, keys_insert, ih, List.map_append, List.map_singleton, eraseDups_concat]
    simp only [List.mem_eraseDups]

/-! ## Erasing -/

section Erasing

variable {κ α : Type} [DecidableEq κ]

theorem erase_eq_self {m : OrderedMap κ α} {key : κ} (h : m.find? key = none) :
    m.erase key = m := by
  refine ext (List.filter_eq_self.2 fun entry hentry => ?_)
  refine decide_eq_true ?_
  rintro rfl
  exact find?_eq_none_iff.1 h (List.mem_map_of_mem hentry)

theorem filter_put_self (key : κ) (value : α) (entries : List (κ × α)) :
    (put key value entries).filter (·.1 ≠ key) = entries.filter (·.1 ≠ key) := by
  induction entries with
  | nil => simp [put]
  | cons entry rest ih =>
    by_cases h : entry.1 = key
    · simp [put, h]
    · simp only [put, if_neg h, List.filter_cons, ih]

theorem filter_put_of_ne {key other : κ} (h : key ≠ other) (value : α) (entries : List (κ × α)) :
    (put key value entries).filter (·.1 ≠ other) =
      put key value (entries.filter (·.1 ≠ other)) := by
  induction entries with
  | nil => simp [put, h]
  | cons entry rest ih =>
    by_cases hkey : entry.1 = key
    · have hkeep : entry.1 ≠ other := hkey ▸ h
      rw [put, if_pos hkey, List.filter_cons_of_pos (by simpa using h),
        List.filter_cons_of_pos (by simpa using hkeep), put, if_pos hkey]
    · by_cases hother : entry.1 = other
      · rw [put, if_neg hkey, List.filter_cons_of_neg (by simpa using hother), ih,
          List.filter_cons_of_neg (by simpa using hother)]
      · rw [put, if_neg hkey, List.filter_cons_of_pos (by simpa using hother), ih,
          List.filter_cons_of_pos (by simpa using hother), put, if_neg hkey]

theorem erase_insert_self (m : OrderedMap κ α) (key : κ) (value : α) :
    (m.insert key value).erase key = m.erase key :=
  ext (filter_put_self key value m.entries)

theorem erase_insert_of_ne {key other : κ} (h : key ≠ other) (m : OrderedMap κ α) (value : α) :
    (m.insert key value).erase other = (m.erase other).insert key value :=
  ext (filter_put_of_ne h value m.entries)

theorem erase_erase_self (m : OrderedMap κ α) (key : κ) : (m.erase key).erase key = m.erase key :=
  erase_eq_self (find?_erase_self m key)

end Erasing

end OrderedMap
end AmpComponents
