/-
The first occurrences in a list of names.

`List.eraseDups` keeps a name where it first stands.  So a list that grows at its end only appends
to its first occurrences (`eraseDups_prefix_append`), and which names they are does not depend on
the order of the list (`eraseDups_perm`).
-/
import Mathlib.Data.List.Induction
import Mathlib.Data.List.Nodup

namespace AmpComponents

variable {l m : List String}

theorem eraseDups_concat (l : List String) (a : String) :
    (l ++ [a]).eraseDups = if a ∈ l then l.eraseDups else l.eraseDups ++ [a] := by
  rw [List.eraseDups_append]
  by_cases h : a ∈ l
  · simp [List.removeAll, h]
  · simp [List.removeAll, h, List.eraseDups_cons]

theorem nodup_eraseDups (l : List String) : l.eraseDups.Nodup := by
  induction l using List.reverseRecOn with
  | nil => exact List.nodup_nil
  | append_singleton l a ih =>
    rw [eraseDups_concat]
    split
    · exact ih
    · next hnew =>
      rw [← List.concat_eq_append]
      exact ih.concat fun hmem => hnew (List.mem_eraseDups.1 hmem)

theorem eraseDups_prefix_append (l m : List String) : l.eraseDups <+: (l ++ m).eraseDups := by
  rw [List.eraseDups_append]
  exact List.prefix_append _ _

/-- Names that are there already add nothing. -/
theorem eraseDups_append_of_subset (h : m ⊆ l) : (l ++ m).eraseDups = l.eraseDups := by
  have hnone : m.removeAll l = [] := by
    refine List.filter_eq_nil_iff.2 fun a ha => ?_
    simpa using h ha
  rw [List.eraseDups_append, hnone, List.eraseDups_nil, List.append_nil]

/-- Lists of the same names have the same first occurrences, in some order. -/
theorem eraseDups_perm (h : ∀ a, a ∈ l ↔ a ∈ m) : l.eraseDups.Perm m.eraseDups := by
  rw [List.perm_ext_iff_of_nodup (nodup_eraseDups l) (nodup_eraseDups m)]
  intro a
  rw [List.mem_eraseDups, List.mem_eraseDups, h]

end AmpComponents
