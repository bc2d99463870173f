/-
What a registry holds after any number of registrations.

A map that is filled entry by entry is told by its entries alone, and a registry is such a map twice
over.  The registrations for one tag name fill the map of this name, whatever stands between them
(`SharedTags.variants_registerAll`), and the tag names fill the outer one.
-/
import AmpComponents.Synthesis
import AmpComponents.Proofs.OrderedMap
import AmpComponents.Proofs.Retention

namespace AmpComponents

/-! ## Registrations -/

structure Registration where
  tag : String
  variant : String
  discriminator : String
  deriving DecidableEq, Repr

namespace Registration

def entry (call : Registration) : String × String := (call.variant, call.discriminator)

/-- The registrations for one tag name. -/
def callsFor (tag : String) (calls : List Registration) : List Registration :=
  calls.filter (·.tag = tag)

theorem callsFor_concat_self (calls : List Registration) (call : Registration) :
    callsFor call.tag (calls ++ [call]) = callsFor call.tag calls ++ [call] := by
  simp [callsFor]

theorem callsFor_concat_of_ne {tag : String} (calls : List Registration) {call : Registration}
    (h : tag ≠ call.tag) : callsFor tag (calls ++ [call]) = callsFor tag calls := by
  simp [callsFor, h.symm]

/-- The tag names, in the order of their first registration. -/
def tagNames (calls : List Registration) : List String := (calls.map (·.tag)).eraseDups

/-- The variants of a tag name, in the order of their first registration under it. -/
def variantNames (tag : String) (calls : List Registration) : List String :=
  ((callsFor tag calls).map (·.variant)).eraseDups

/-- The last registration of a variant under a tag name. -/
def latest? (tag variant : String) (calls : List Registration) : Option Registration :=
  ((callsFor tag calls).filter (·.variant = variant)).getLast?

/-- The discriminator of the last registration; empty when there is none. -/
def latest (tag variant : String) (calls : List Registration) : String :=
  ((latest? tag variant calls).map (·.discriminator)).getD ""

theorem latest?_of_mem {tag variant : String} {calls : List Registration}
    (h : variant ∈ variantNames tag calls) :
    (latest? tag variant calls).map (·.discriminator) = some (latest tag variant calls) := by
  obtain ⟨call, hcall, hname⟩ := List.mem_map.1 (List.mem_eraseDups.1 h)
  have hne : (callsFor tag calls).filter (·.variant = variant) ≠ [] :=
    List.ne_nil_of_mem (List.mem_filter.2 ⟨hcall, by simpa using hname⟩)
  rw [latest, latest?, List.getLast?_eq_some_getLast hne]
  rfl

end Registration

namespace SharedTags

open Registration

/-- The registry after these registrations, one after the other. -/
def registerAll (calls : List Registration) : SharedTags :=
  calls.foldl (fun r call => register r call.tag call.variant call.discriminator) .empty

theorem registerAll_concat (calls : List Registration) (call : Registration) :
    registerAll (calls ++ [call]) =
      register (registerAll calls) call.tag call.variant call.discriminator := by
  rw [registerAll, List.foldl_append]
  rfl

theorem keys_registerAll (calls : List Registration) :
    (registerAll calls).keys = tagNames calls := by
  induction calls using List.reverseRecOn with
  | nil => rfl
  | append_singleton calls call ih =>
    rw [registerAll_concat, register, OrderedMap.keys_insert, ih, tagNames, tagNames,
      List.map_append, List.map_singleton, eraseDups_concat]
    simp only [List.mem_eraseDups]

/-- The variants of a tag name are what is registered for it, whatever stands between. -/
theorem variants_registerAll (calls : List Registration) (tag : String) :
    variants (registerAll calls) tag = .ofList ((callsFor tag calls).map (·.entry)) := by
  induction calls using List.reverseRecOn with
  | nil => rfl
  | append_singleton calls call ih =>
    rw [registerAll_concat]
    by_cases h : tag = call.tag
    · subst h
      rw [variants_register_self, ih, callsFor_concat_self, List.map_append, List.map_singleton,
        OrderedMap.ofList_concat]
      rfl
    · rw [variants_register_of_ne h, ih, callsFor_concat_of_ne calls h]

theorem find?_registerAll {calls : List Registration} {tag : String}
    (h : tag ∈ tagNames calls) :
    (registerAll calls).find? tag = some (variants (registerAll calls) tag) := by
  have hfound : (registerAll calls).find? tag ≠ none := fun hnone =>
    OrderedMap.find?_eq_none_iff.1 hnone (keys_registerAll calls ▸ h)
  obtain ⟨vs, hvs⟩ := Option.ne_none_iff_exists'.1 hfound
  rw [variants, hvs]
  rfl

/-- The variants stand in the order of their first registration, with their last discriminators. -/
theorem entries_variants_registerAll (calls : List Registration) (tag : String) :
    (variants (registerAll calls) tag).entries =
      (variantNames tag calls).map fun variant => (variant, latest tag variant calls) := by
  have hkeys : (variants (registerAll calls) tag).keys = variantNames tag calls := by
    rw [variants_registerAll, OrderedMap.keys_ofList, List.map_map]
    rfl
  rw [← hkeys]
  refine OrderedMap.entries_eq_map fun variant hvariant => ?_
  rw [hkeys] at hvariant
  rw [variants_registerAll, OrderedMap.find?_ofList, List.filter_map, List.getLast?_map,
    Option.map_map, ← latest?_of_mem hvariant]
  rfl

theorem dispatchers_registerAll (calls : List Registration) :
    (registerAll calls).dispatchers =
      ((tagNames calls).filter fun tag => !isBlocked tag).map fun tag =>
        ⟨exportName tag, tag, (variantNames tag calls).map fun variant =>
          ⟨latest tag variant calls, exportName variant⟩⟩ := by
  have hentries : (registerAll calls).entries =
      (tagNames calls).map fun tag => (tag, variants (registerAll calls) tag) := by
    rw [← keys_registerAll]
    exact OrderedMap.entries_eq_map fun tag htag =>
      find?_registerAll (keys_registerAll calls ▸ htag)
  rw [dispatchers, hentries, List.filter_map, List.map_map]
  refine List.map_congr_left fun tag _ => ?_
  show Dispatcher.ofEntry (tag, variants (registerAll calls) tag) = _
  rw [Dispatcher.ofEntry, entries_variants_registerAll, List.map_map]
  rfl

/-! ## The whole history -/

/-- What a registration under `tag` leaves as it is: the variants of all other tags, and the order
of everything that was there. -/
structure Extends (tag : String) (r r' : SharedTags) : Prop where
  find?_of_ne : ∀ other, other ≠ tag → r'.find? other = r.find? other
  keys : r.keys <+: r'.keys
  variants : (variants r tag).keys <+: (SharedTags.variants r' tag).keys

theorem extends_register (r : SharedTags) (tag variant discriminator : String) :
    Extends tag r (register r tag variant discriminator) where
  find?_of_ne _ h := OrderedMap.find?_insert_of_ne h ..
  keys := OrderedMap.keys_prefix_insert ..
  variants := by
    rw [variants_register_self]
    exact OrderedMap.keys_prefix_insert ..

/-- A registry that these registrations lead to. -/
structure Records (calls : List Registration) (r : SharedTags) : Prop where
  keys : r.keys = tagNames calls
  variants : ∀ tag ∈ tagNames calls, ∃ vs, r.find? tag = some vs ∧
    vs.entries = (variantNames tag calls).map fun variant => (variant, latest tag variant calls)
  absent : ∀ tag ∉ tagNames calls, r.find? tag = none
  contains_iff : ∀ tag, r.contains tag = true ↔ ∃ call ∈ calls, call.tag = tag
  size : r.size = (tagNames calls).length
  register : ∀ tag variant discriminator,
    Extends tag r (register r tag variant discriminator)
  dispatchers : r.dispatchers =
    ((tagNames calls).filter fun tag => !isBlocked tag).map fun tag =>
      ⟨exportName tag, tag, (variantNames tag calls).map fun variant =>
        ⟨latest tag variant calls, exportName variant⟩⟩

theorem records_registerAll (calls : List Registration) : Records calls (registerAll calls) where
  keys := keys_registerAll calls
  variants tag h := ⟨_, find?_registerAll h, entries_variants_registerAll calls tag⟩
  absent tag h := OrderedMap.find?_eq_none_iff.2 (keys_registerAll calls ▸ h)
  contains_iff tag := by
    rw [OrderedMap.contains_iff, keys_registerAll, tagNames, List.mem_eraseDups, List.mem_map]
  size := by
    rw [← keys_registerAll, OrderedMap.keys, List.length_map]
    rfl
  register := extends_register _
  dispatchers := dispatchers_registerAll calls

/-- A second registration gives a variant its new discriminator in its old place. -/
example : (registerAll [⟨"script", "script_61", "a"⟩, ⟨"O:P", "O:P_61", "a"⟩,
      ⟨"script", "script_62", "b"⟩, ⟨"script", "script_61", "c"⟩]).dispatchers =
    [⟨"Script", "script", [⟨"c", "Script_61"⟩, ⟨"b", "Script_62"⟩]⟩] := by decide +kernel

end SharedTags
end AmpComponents
