/-
Dispatchers find every variant.

`Dispatcher.select` takes the first variant with the wanted name.  Within one dispatcher no name
stands twice, so the first is the only one and no variant hides another.  That follows from the
registry alone: its keys are the variant names, which differ, and the variant name of a rule is
made from its discriminator, so equal discriminators would have given equal keys.

`select_eq_some_iff_component` says of a whole module that the dispatcher and the components of
one tag name agree: what the one selects is what the others are.
-/
import AmpComponents.Proofs.Generation
import Mathlib.Data.List.Nodup

namespace AmpComponents

/-! ## Selecting -/

namespace Dispatcher

theorem component_of_select {d : Dispatcher} {s n : String} (h : d.select s = some n) :
    ⟨s, n⟩ ∈ d.variants := by
  obtain ⟨v, hfind, hcomponent⟩ := Option.map_eq_some_iff.1 h
  have hname : v.specName = s := by simpa using List.find?_some hfind
  rw [← hname, ← hcomponent]
  exact List.mem_of_find?_eq_some hfind

/-- When no name stands twice, every variant is selected by its name. -/
theorem select_eq_some_iff_mem {d : Dispatcher} (hnodup : d.specNames.Nodup) {s n : String} :
    d.select s = some n ↔ ⟨s, n⟩ ∈ d.variants := by
  refine ⟨component_of_select, fun hmem => ?_⟩
  cases hselect : d.select s with
  | none =>
    have hnone := hselect ▸ select_isSome_iff.2 (List.mem_map_of_mem hmem)
    cases hnone
  | some other =>
    have hsame : (⟨s, other⟩ : Variant) = ⟨s, n⟩ :=
      List.inj_on_of_nodup_map hnodup (component_of_select hselect) hmem rfl
    rw [(Variant.mk.inj hsame).2]

end Dispatcher

/-! ## Discriminators -/

/-- An empty name counts as absent, so what is left is not empty. -/
theorem TagRule.discriminator_ne_empty (rule : TagRule) : rule.discriminator ≠ "" := by
  unfold TagRule.discriminator
  cases hspec : nonEmpty rule.specName with
  | some s => exact (nonEmpty_eq_some_iff.1 hspec).2
  | none =>
    cases hextension : nonEmpty (rule.extensionSpec.bind (·.name)) with
    | some s => exact (nonEmpty_eq_some_iff.1 hextension).2
    | none => decide

/-! ## Components and their dispatcher -/

section Module

variable {parser : ScriptParser} {t : RuleTable} {c : Settings} {overrides : Overrides}
  {m : ComponentModule}

/-- A component of a module is declared for one of the rules. -/
theorem exists_rule_of_mem_components (h : assemble t c overrides = .ok m) {k : Component}
    (hk : k ∈ m.components) : ∃ rule ∈ allowedRules t.tags, ∃ props, t.props rule = .ok props ∧
      k = .declared t.tags overrides rule props := by
  obtain ⟨i, hi, rfl⟩ := List.getElem_of_mem hk
  have hall := components_of_assemble h
  have hrule : i < (allowedRules t.tags).length := hall.length_eq ▸ hi
  exact ⟨_, List.getElem_mem hrule, List.forall₂_iff_get.1 hall |>.2 i hrule hi⟩

/-- Every rule that is not blocked has its component. -/
theorem exists_component_of_mem_allowedRules (h : generateWith parser t c overrides = .ok m)
    {rule : TagRule} (hrule : rule ∈ allowedRules t.tags) : ∃ props, t.props rule = .ok props ∧
      Component.declared t.tags overrides rule props ∈ m.components := by
  obtain ⟨i, hi, rfl⟩ := List.getElem_of_mem hrule
  have hall := components_of_generateWith h
  have hk : i < m.components.length := hall.length_eq ▸ hi
  obtain ⟨props, hprops, hcomponent⟩ := List.forall₂_iff_get.1 hall |>.2 i hi hk
  exact ⟨props, hprops, hcomponent ▸ List.get_mem _ _⟩

/-- The components of a shared tag name, by their rules. -/
theorem component_iff_rule {tag : String} (h : generateWith parser t c overrides = .ok m)
    (htag : isDispatched t.tags tag = true) {s n : String} :
    (∃ k ∈ m.components, k.tagName = tag ∧ k.specName = some s ∧ k.name = n) ↔
      ⟨s, n⟩ ∈ (Dispatcher.declared t.tags tag).variants := by
  obtain ⟨hallowed, hmany⟩ := isDispatched_iff.1 htag
  have hfields : ∀ rule : TagRule, rule.tagName = tag → ∀ props,
      (Component.declared t.tags overrides rule props).specName = some rule.discriminator ∧
      (Component.declared t.tags overrides rule props).name =
        exportName (variantName tag rule.discriminator) := by
    intro rule hname props
    subst hname
    exact ⟨if_pos hmany, congrArg exportName (if_pos hmany)⟩
  constructor
  · rintro ⟨k, hk, hname, hspec, rfl⟩
    obtain ⟨rule, hrule, props, -, rfl⟩ :=
      exists_rule_of_mem_components (assemble_of_generateWith h) hk
    obtain ⟨hspec', hname'⟩ := hfields rule hname props
    obtain rfl : rule.discriminator = s := Option.some.inj (hspec'.symm.trans hspec)
    rw [hname']
    exact List.mem_map_of_mem (mem_rulesFor_iff.2 ⟨(mem_allowedRules_iff.1 hrule).1, hname⟩)
  · intro hvariant
    obtain ⟨rule, hrule, hvariant⟩ := List.mem_map.1 hvariant
    obtain ⟨hmem, hname⟩ := mem_rulesFor_iff.1 hrule
    obtain ⟨rfl, rfl⟩ := Variant.mk.inj hvariant
    obtain ⟨props, -, hk⟩ := exists_component_of_mem_allowedRules h
      (mem_allowedRules_iff.2 ⟨hmem, hname ▸ hallowed⟩)
    obtain ⟨hspec, hname'⟩ := hfields rule hname props
    exact ⟨_, hk, hname, hspec, hname'⟩

theorem nodup_specNames_declared {tag : String} (h : generateWith parser t c overrides = .ok m)
    (htag : isDispatched t.tags tag = true) :
    (Dispatcher.declared t.tags tag).specNames.Nodup := by
  obtain ⟨r, hpass, -⟩ := retention_of_assemble (assemble_of_generateWith h)
  have hnodup := Retention.nodup_discriminators (Retention.tracks_of_ofRules hpass) htag
  rwa [Dispatcher.specNames, Dispatcher.declared, List.map_map]

theorem declared_of_mem_dispatchers (h : generateWith parser t c overrides = .ok m) {d : Dispatcher}
    (hd : d ∈ m.dispatchers) :
    isDispatched t.tags d.tagName = true ∧ d = .declared t.tags d.tagName := by
  rw [dispatchers_of_generateWith h] at hd
  obtain ⟨tag, htag, rfl⟩ := List.mem_map.1 hd
  exact ⟨(mem_dispatchedNames_iff.1 htag).2, rfl⟩

theorem specNames_declared_ne_nil {tag : String} (htag : isDispatched t.tags tag = true) :
    (Dispatcher.declared t.tags tag).specNames ≠ [] := by
  have hmany := (isDispatched_iff.1 htag).2
  obtain ⟨rule, hrule, hname⟩ :=
    exists_tagName_eq_of_occurrences_pos (Nat.lt_of_succ_lt hmany)
  have hmem : rule.discriminator ∈ (Dispatcher.declared t.tags tag).specNames := by
    rw [Dispatcher.specNames, Dispatcher.declared, List.map_map]
    exact List.mem_map_of_mem (mem_rulesFor_iff.2 ⟨hrule, hname⟩)
  exact List.ne_nil_of_mem hmem

theorem ne_empty_of_mem_specNames_declared {tag s : String}
    (hs : s ∈ (Dispatcher.declared t.tags tag).specNames) : s ≠ "" := by
  rw [Dispatcher.specNames, Dispatcher.declared, List.map_map] at hs
  obtain ⟨rule, -, rfl⟩ := List.mem_map.1 hs
  exact rule.discriminator_ne_empty

/-- What a dispatcher selects for a name is the component of its tag name with that spec name. -/
theorem select_eq_some_iff_component (h : generateWith parser t c overrides = .ok m)
    {d : Dispatcher} (hd : d ∈ m.dispatchers) {s n : String} :
    d.select s = some n ↔
      ∃ k ∈ m.components, k.tagName = d.tagName ∧ k.specName = some s ∧ k.name = n := by
  obtain ⟨htag, hdeclared⟩ := declared_of_mem_dispatchers h hd
  have hnodup : d.specNames.Nodup := hdeclared ▸ nodup_specNames_declared h htag
  rw [Dispatcher.select_eq_some_iff_mem hnodup, component_iff_rule h htag, ← hdeclared]

theorem select_eq_none_iff_component (h : generateWith parser t c overrides = .ok m)
    {d : Dispatcher} (hd : d ∈ m.dispatchers) {s : String} :
    d.select s = none ↔
      ¬∃ k ∈ m.components, k.tagName = d.tagName ∧ k.specName = some s := by
  constructor
  · rintro hnone ⟨k, hk, hname, hspec⟩
    have hsome := (select_eq_some_iff_component h hd).2 ⟨k, hk, hname, hspec, rfl⟩
    rw [hnone] at hsome
    cases hsome
  · intro hno
    refine Option.eq_none_iff_forall_ne_some.2 fun n hn => hno ?_
    obtain ⟨k, hk, hname, hspec, -⟩ := (select_eq_some_iff_component h hd).1 hn
    exact ⟨k, hk, hname, hspec⟩

theorem select_of_mem_components (h : generateWith parser t c overrides = .ok m) {d : Dispatcher}
    (hd : d ∈ m.dispatchers) {k : Component} (hk : k ∈ m.components)
    (hname : k.tagName = d.tagName) : ∃ s, k.specName = some s ∧ d.select s = some k.name := by
  have hmany := (isDispatched_iff.1 (declared_of_mem_dispatchers h hd).1).2
  obtain ⟨rule, -, props, -, rfl⟩ :=
    exists_rule_of_mem_components (assemble_of_generateWith h) hk
  have hrule : rule.tagName = d.tagName := hname
  have hspec : (Component.declared t.tags overrides rule props).specName =
      some rule.discriminator := if_pos (hrule ▸ hmany)
  exact ⟨_, hspec, (select_eq_some_iff_component h hd).2 ⟨_, hk, hname, hspec, rfl⟩⟩

end Module

/-- A dispatcher and the components of its tag name select the same: every variant is reachable by
its name, none hides another, and no name leads to a component that is not there. -/
structure Dispatcher.Agrees (d : Dispatcher) (components : List Component) : Prop where
  specNames_ne_nil : d.specNames ≠ []
  ne_empty : ∀ s ∈ d.specNames, s ≠ ""
  nodup : d.specNames.Nodup
  reaches : ∀ k ∈ components, k.tagName = d.tagName →
    ∃ s, k.specName = some s ∧ d.select s = some k.name
  select_eq_some_iff : ∀ s n, d.select s = some n ↔
    ∃ k ∈ components, k.tagName = d.tagName ∧ k.specName = some s ∧ k.name = n
  select_eq_none_iff : ∀ s, d.select s = none ↔
    ¬∃ k ∈ components, k.tagName = d.tagName ∧ k.specName = some s

theorem agrees_of_generateWith {parser : ScriptParser} {t : RuleTable} {c : Settings}
    {overrides : Overrides} {m : ComponentModule}
    (h : generateWith parser t c overrides = .ok m) {d : Dispatcher} (hd : d ∈ m.dispatchers) :
    d.Agrees m.components := by
  obtain ⟨htag, hdeclared⟩ := declared_of_mem_dispatchers h hd
  refine ⟨?_, fun s hs => ?_, ?_, fun k hk hname => select_of_mem_components h hd hk hname,
    fun s n => select_eq_some_iff_component h hd, fun s => select_eq_none_iff_component h hd⟩
  · rw [hdeclared]
    exact specNames_declared_ne_nil htag
  · rw [hdeclared] at hs
    exact ne_empty_of_mem_specNames_declared hs
  · rw [hdeclared]
    exact nodup_specNames_declared h htag

theorem agrees_sampleModule :
    generateWith abortingParser sampleTable { verify := false } Settings.default.registry =
        .ok sampleModule ∧
      ∃ d ∈ sampleModule.dispatchers, d.specNames = ["a", "é"] ∧
        d.Agrees sampleModule.components :=
  ⟨generateWith_sampleTable _, _, List.mem_singleton_self _, rfl,
    agrees_of_generateWith (generateWith_sampleTable abortingParser) (List.mem_singleton_self _)⟩

end AmpComponents
