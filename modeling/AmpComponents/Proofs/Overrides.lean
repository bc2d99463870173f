/-
What a registry of overrides remembers.

A name keeps the override that was registered for it last, whatever was registered in between, and
the registry tells no more than that: how many names there are, and which, in their own order.  So
the history counts by its last registrations alone (`remembers_registerAll`).

The settings register a list of names for one directory.  There every registration of a name is the
same, so neither the order of the list matters nor how often a name stands in it, and of the
directory only what is left without the slashes at its end (`listsNames_ofNames`).  A run asks the
registry for nothing but bindings, so two lists of the same names lead to the same module.
-/
import AmpComponents.Generation
import AmpComponents.Proofs.OrderedMap
import Mathlib.Data.List.DropRight
import Mathlib.Data.List.Sort
import Mathlib.Data.String.Basic

namespace AmpComponents

/-! ## Slashes -/

section Slashes

/-- A text of slashes. -/
def slashes (n : Nat) : String := String.ofList (List.replicate n '/')

/-- Whether a directory is named without a slash at the end. -/
def EndsPlain (dir : String) : Prop := dir.toList.getLast? ≠ some '/'

theorem toList_trimSlashes (dir : String) :
    (trimSlashes dir).toList = dir.toList.rdropWhile (· = '/') := String.toList_ofList

theorem rdropWhile_append_replicate (s : List Char) (n : Nat) :
    (s ++ List.replicate n '/').rdropWhile (· = '/') = s.rdropWhile (· = '/') := by
  induction n with
  | zero => rw [List.replicate_zero, List.append_nil]
  | succ n ih =>
    rw [List.replicate_succ', ← List.append_assoc, List.rdropWhile_concat_pos _ _ _ (by decide), ih]

theorem trimSlashes_append_slashes (dir : String) (n : Nat) :
    trimSlashes (dir ++ slashes n) = trimSlashes dir := by
  rw [← String.toList_inj, toList_trimSlashes, toList_trimSlashes, String.toList_append, slashes,
    String.toList_ofList, rdropWhile_append_replicate]

theorem trimSlashes_eq_self {dir : String} (h : EndsPlain dir) : trimSlashes dir = dir := by
  rw [← String.toList_inj, toList_trimSlashes, List.rdropWhile_eq_self_iff]
  intro hne hlast
  refine h ?_
  rw [List.getLast?_eq_some_getLast hne, of_decide_eq_true hlast]

theorem endsPlain_trimSlashes (dir : String) : EndsPlain (trimSlashes dir) := by
  rw [EndsPlain, toList_trimSlashes]
  intro hlast
  have hne : dir.toList.rdropWhile (· = '/') ≠ [] := by
    intro hnil
    rw [hnil] at hlast
    cases hlast
  have hslash := (List.getLast_eq_iff_getLast?_eq_some hne).2 hlast
  exact List.rdropWhile_last_not _ _ hne (decide_eq_true hslash)

/-- A directory is what is left of it, with some slashes behind. -/
theorem exists_eq_append_slashes (dir : String) : ∃ n, dir = trimSlashes dir ++ slashes n := by
  have hslashes : dir.toList.rtakeWhile (· = '/') =
      List.replicate (dir.toList.rtakeWhile (· = '/')).length '/' := by
    refine List.eq_replicate_iff.2 ⟨rfl, fun c hc => ?_⟩
    simpa using List.mem_rtakeWhile_imp hc
  refine ⟨(dir.toList.rtakeWhile (· = '/')).length, ?_⟩
  rw [← String.toList_inj, String.toList_append, toList_trimSlashes, slashes,
    String.toList_ofList, ← hslashes, List.rdropWhile_append_rtakeWhile]

end Slashes

namespace Overrides

variable {r r' : Overrides}

/-! ## The listing

The names are sorted, and there is only one way to sort them. -/

/-- The description that lists these names. -/
def listing (names : List String) : String :=
  "OverrideRegistry \x7b components: [" ++ String.intercalate ", " (names.map Text.quoted)
    ++ "] \x7d"

theorem describe_eq_listing (r : Overrides) : describe r = listing (sortedNames r) := rfl

theorem mem_sortedNames {name : String} : name ∈ sortedNames r ↔ name ∈ r.keys :=
  List.mem_mergeSort

theorem pairwise_sortedNames (r : Overrides) : (sortedNames r).Pairwise (· < ·) := by
  have hsorted : (sortedNames r).Pairwise (· ≤ ·) := List.pairwise_mergeSort' (· ≤ ·) r.keys
  have hnodup : (sortedNames r).Nodup := (List.mergeSort_perm r.keys _).nodup_iff.2 r.nodup_keys
  exact hsorted.imp₂ (fun _ _ => lt_of_le_of_ne) hnodup

theorem describe_congr (h : ∀ name, name ∈ r.keys ↔ name ∈ r'.keys) : describe r = describe r' := by
  have hnames : sortedNames r = sortedNames r' := by
    refine (pairwise_sortedNames r).eq_of_mem_iff (pairwise_sortedNames r') fun name => ?_
    rw [mem_sortedNames, mem_sortedNames, h]
  rw [describe_eq_listing, describe_eq_listing, hnames]

/-- A registry has as many names as a list that names each of them once. -/
theorem size_eq_length {names : List String} (hnodup : names.Nodup)
    (h : ∀ name, name ∈ r.keys ↔ name ∈ names) : r.size = names.length := by
  have hperm : r.keys.Perm names := (List.perm_ext_iff_of_nodup r.nodup_keys hnodup).2 h
  rw [← hperm.length_eq, OrderedMap.keys, List.length_map]
  rfl

theorem size_congr (h : ∀ name, name ∈ r.keys ↔ name ∈ r'.keys) : r.size = r'.size :=
  (size_eq_length r'.nodup_keys h).trans (size_eq_length r'.nodup_keys fun _ => Iff.rfl).symm

theorem resolve_eq_none_iff {name : String} : resolve r name = none ↔ name ∉ r.keys := by
  rw [resolve, Option.map_eq_none_iff, OrderedMap.find?_eq_none_iff]

/-! ## Runs -/

/-- A run asks for bindings only. -/
theorem generateWith_congr (h : ∀ name, resolve r name = resolve r' name) (parser : ScriptParser)
    (t : RuleTable) (c : Settings) : generateWith parser t c r = generateWith parser t c r' := by
  have hkind : ComponentKind.of r = ComponentKind.of r' := by
    funext name tagName
    rw [ComponentKind.of, ComponentKind.of, h]
  have htag : Component.ofTag t r = Component.ofTag t r' := by
    funext tag
    rw [Component.ofTag, Component.ofTag, hkind]
  have hmodule : assemble t c r = assemble t c r' := by
    unfold assemble synthesizeComponents
    rw [htag]
  rw [generateWith, generateWith, hmodule]

/-! ## Histories -/

/-- The registry after these registrations, one after the other. -/
def registerAll (calls : List (String × Override)) : Overrides :=
  calls.foldl (fun r call => register r call.1 call.2) .empty

theorem registerAll_concat (calls : List (String × Override)) (call : String × Override) :
    registerAll (calls ++ [call]) = register (registerAll calls) call.1 call.2 := by
  rw [registerAll, List.foldl_append]
  rfl

theorem keys_registerAll (calls : List (String × Override)) :
    (registerAll calls).keys = (calls.map (·.1)).eraseDups :=
  OrderedMap.keys_ofList calls

theorem mem_keys_registerAll {calls : List (String × Override)} {name : String} :
    name ∈ (registerAll calls).keys ↔ name ∈ calls.map (·.1) := by
  rw [keys_registerAll, List.mem_eraseDups]

/-- The last registration of a name is behind all others of it. -/
theorem resolve_registerAll_append {calls after : List (String × Override)} {name : String}
    {o : Override} (h : name ∉ after.map (·.1)) :
    resolve (registerAll (calls ++ (name, o) :: after)) name = some (o name) := by
  induction after using List.reverseRecOn with
  | nil => rw [registerAll_concat, resolve_register_self]
  | append_singleton after call ih =>
    rw [List.map_append, List.mem_append, not_or] at h
    have hne : name ≠ call.1 := fun heq => h.2 (List.mem_singleton.2 heq)
    rw [← List.cons_append, ← List.append_assoc, registerAll_concat, resolve_register_of_ne hne,
      ih h.1]

/-- Every name that is registered is registered a last time. -/
theorem exists_last {calls : List (String × Override)} {name : String}
    (h : name ∈ calls.map (·.1)) : ∃ before o after,
      calls = before ++ (name, o) :: after ∧ name ∉ after.map (·.1) := by
  induction calls using List.reverseRecOn with
  | nil => cases h
  | append_singleton calls call ih =>
    obtain ⟨n, o⟩ := call
    by_cases hname : n = name
    · subst hname
      exact ⟨calls, o, [], rfl, List.not_mem_nil⟩
    · rw [List.map_append, List.mem_append] at h
      obtain ⟨before, o', after, rfl, hafter⟩ :=
        ih (h.resolve_right fun hmem => hname (List.mem_singleton.1 hmem).symm)
      refine ⟨before, o', after ++ [(n, o)], by simp, ?_⟩
      rw [List.map_append, List.mem_append, not_or]
      exact ⟨hafter, fun hmem => hname (List.mem_singleton.1 hmem).symm⟩

/-- A registry that these registrations lead to. -/
structure Remembers (calls : List (String × Override)) (r : Overrides) : Prop where
  resolve_eq_some_iff : ∀ name binding, resolve r name = some binding ↔ ∃ before o after,
    calls = before ++ (name, o) :: after ∧ name ∉ after.map (·.1) ∧ o name = binding
  resolve_eq_none_iff : ∀ name, resolve r name = none ↔ name ∉ calls.map (·.1)
  /-- The names count once. -/
  size : ∀ names : List String, names.Nodup → (∀ name, name ∈ names ↔ name ∈ calls.map (·.1)) →
    r.size = names.length
  /-- The description lists the names in their order. -/
  describe : ∃ names : List String, names.Pairwise (· < ·) ∧
    (∀ name, name ∈ names ↔ name ∈ calls.map (·.1)) ∧
    describe r = listing names
  /-- So another history of the same names has the same description. -/
  describe_eq : ∀ others : List (String × Override),
    (∀ name, name ∈ others.map (·.1) ↔ name ∈ calls.map (·.1)) →
    Overrides.describe (registerAll others) = Overrides.describe r

theorem remembers_registerAll (calls : List (String × Override)) :
    Remembers calls (registerAll calls) where
  resolve_eq_some_iff name binding := by
    constructor
    · intro hresolve
      have hmem : name ∈ calls.map (·.1) := by
        by_contra hnew
        have hnone := resolve_eq_none_iff.2 (mt mem_keys_registerAll.1 hnew)
        rw [hresolve] at hnone
        cases hnone
      obtain ⟨before, o, after, rfl, hafter⟩ := exists_last hmem
      rw [resolve_registerAll_append hafter] at hresolve
      exact ⟨before, o, after, rfl, hafter, Option.some.inj hresolve⟩
    · rintro ⟨before, o, after, rfl, hafter, rfl⟩
      exact resolve_registerAll_append hafter
  resolve_eq_none_iff name := by rw [resolve_eq_none_iff, mem_keys_registerAll]
  size names hnodup hnames := by
    refine size_eq_length hnodup fun name => ?_
    rw [mem_keys_registerAll, hnames]
  describe := by
    refine ⟨sortedNames (registerAll calls), pairwise_sortedNames _, fun name => ?_, rfl⟩
    rw [mem_sortedNames, mem_keys_registerAll]
  describe_eq others h := by
    refine describe_congr fun name => ?_
    rw [mem_keys_registerAll, mem_keys_registerAll, h]

/-! ## Names in a directory -/

theorem ofNames_eq_registerAll (names : List String) (dir : String) :
    ofNames names dir = registerAll (names.map fun name => (name, .inDirectory dir)) := by
  rw [registerAll, List.foldl_map]
  rfl

theorem mem_keys_ofNames {names : List String} {dir name : String} :
    name ∈ (ofNames names dir).keys ↔ name ∈ names := by
  rw [ofNames_eq_registerAll, mem_keys_registerAll, List.map_map]
  exact Iff.of_eq (congrArg _ (List.map_id names))

theorem ofNames_append_slashes (names : List String) (dir : String) (n : Nat) :
    ofNames names (dir ++ slashes n) = ofNames names dir := by
  have hsame : Override.inDirectory (dir ++ slashes n) = Override.inDirectory dir := by
    funext name
    rw [Override.inDirectory, trimSlashes_append_slashes]
    rfl
  rw [ofNames, hsame]
  rfl

/-- Two registries that cannot be told apart, neither by asking them nor by a run. -/
structure Alike (r r' : Overrides) : Prop where
  resolve : ∀ name, resolve r name = Overrides.resolve r' name
  size : r.size = r'.size
  describe : describe r = Overrides.describe r'
  generate : ∀ parser t c, generateWith parser t c r = generateWith parser t c r'

theorem alike_ofNames {names others : List String} (h : ∀ name, name ∈ others ↔ name ∈ names)
    (dir : String) : Alike (ofNames others dir) (ofNames names dir) := by
  have hresolve : ∀ name, resolve (ofNames others dir) name = resolve (ofNames names dir) name := by
    intro name
    rw [resolve_ofNames, resolve_ofNames]
    exact if_congr (h name) rfl rfl
  have hkeys : ∀ name, name ∈ (ofNames others dir).keys ↔ name ∈ (ofNames names dir).keys := by
    intro name
    rw [mem_keys_ofNames, mem_keys_ofNames, h]
  exact ⟨hresolve, size_congr hkeys, describe_congr hkeys, generateWith_congr hresolve⟩

/-- The registry of a list of names, for a directory. -/
structure ListsNames (names : List String) (dir : String) (r : Overrides) : Prop where
  resolves_iff : ∀ name, (resolve r name).isSome = true ↔ name ∈ names
  /-- The directory has slashes at its end, or none. -/
  plain : ∃ d n, dir = d ++ slashes n ∧ EndsPlain d
  binding : ∀ d n, dir = d ++ slashes n → EndsPlain d → ∀ name ∈ names,
    resolve r name = some ⟨name ++ "Override", d ++ "/" ++ name⟩
  alike : ∀ others, (∀ name, name ∈ others ↔ name ∈ names) → ∀ n,
    Alike (ofNames others (dir ++ slashes n)) r

theorem listsNames_ofNames (names : List String) (dir : String) :
    ListsNames names dir (ofNames names dir) where
  resolves_iff name := by
    rw [resolve_ofNames]
    split
    · next hmem => simp [hmem]
    · next hnew => simp [hnew]
  plain := by
    obtain ⟨n, hdir⟩ := exists_eq_append_slashes dir
    exact ⟨trimSlashes dir, n, hdir, endsPlain_trimSlashes dir⟩
  binding d n hdir hplain name hname := by
    rw [hdir, ofNames_append_slashes, resolve_ofNames, if_pos hname, Override.inDirectory,
      trimSlashes_eq_self hplain]
  alike others h n := by
    rw [ofNames_append_slashes]
    exact alike_ofNames h dir

/-- A directory of slashes is the topmost one. -/
example : resolve (ofNames ["AmpList", "AmpState", "AmpList"] "///") "AmpList" =
    some ⟨"AmpListOverride", "/AmpList"⟩ := by decide +kernel

theorem remembers_and_listsNames (calls : List (String × Override)) (names : List String)
    (dir : String) :
    Remembers calls (registerAll calls) ∧ ListsNames names dir (ofNames names dir) :=
  ⟨remembers_registerAll calls, listsNames_ofNames names dir⟩

end Overrides
end AmpComponents
