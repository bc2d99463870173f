/-
Which modules bind a name twice at their top.

The preamble's names are fixed, a component is named after its tag, and an import that replaces a
component is named after the component.  Nothing in a run compares the three, so whether they differ
is decided by the table and the settings.  When the exported names differ from each other,

  `bindsApart_iff`: every name is bound once, and none is `Object`, if and only if no tag name is
  one of twelve in lower case, and no component `N` that is imported stands next to an export
  `NOverride`.

The twelve are the origins of `React`, `Object` and their like.  Variants need no condition, since
their names end with a digit, and the local names of the imports neither repeat nor meet a fixed
name.
-/
import AmpComponents.Proofs.Emission.Bindings
import AmpComponents.Proofs.ExportName.Origins
import AmpComponents.Proofs.Identifiers

namespace AmpComponents

open Text

/-! ## Names that are taken -/

/-- What the preamble binds, and the global that one of its helpers calls. -/
def takenNames : List String := preambleNames ++ ["Object"]

/-- The tag names, in lower case, that are exported under a name that is taken. -/
def takenTags : List String :=
  ["--react", "react", "--prop-types", "prop-types",
   "--c-o-n-t-e-x-t_-k-e-y", "--c-o-n-t-e-x-t-_-k-e-y",
   "c-o-n-t-e-x-t_-k-e-y", "c-o-n-t-e-x-t-_-k-e-y",
   "-props-helper", "-context-helper", "--object", "object"]

theorem isTraceable_of_taken : ∀ name ∈ takenNames, name.toList.all isTraceable = true := by
  decide +kernel

theorem origins_takenNames :
    takenNames.flatMap (fun name => (origins name.toList).map String.ofList) = takenTags := by
  decide +kernel

theorem exportName_eq_taken_iff {name : String} (h : name ∈ takenNames) {tag : String} :
    exportName tag = name ↔ lower tag.toList ∈ origins name.toList :=
  exportName_eq_iff (List.all_eq_true.1 (isTraceable_of_taken name h))

theorem exportName_mem_takenNames_iff {tag : String} :
    exportName tag ∈ takenNames ↔ lowerText tag ∈ takenTags := by
  rw [← origins_takenNames, List.mem_flatMap]
  constructor
  · intro h
    exact ⟨exportName tag, h, List.mem_map_of_mem ((exportName_eq_taken_iff h).1 rfl)⟩
  · rintro ⟨name, hname, horigin⟩
    obtain ⟨s, hs, heq⟩ := List.mem_map.1 horigin
    obtain rfl : s = lower tag.toList := String.ofList_inj.1 heq
    rwa [(exportName_eq_taken_iff hname).2 hs]

/-! ## Variants -/

theorem isHexDigit_last_of_taken : ∀ name ∈ takenNames,
    name.toList.getLast?.any isHexDigit = false := by decide +kernel

/-- The name of a variant ends with a digit. -/
theorem exportName_variantName_not_taken (tag : String) {d : String} (hd : d ≠ "") :
    exportName (variantName tag d) ∉ takenNames := by
  intro h
  have hne : hex d ≠ [] := fun hnil => hd (hex_inj.1 hnil)
  have hdigit : isHexDigit ((hex d).getLast hne) = true :=
    forall_mem_hex (P := (isHexDigit · = true)) (by decide) d _ (List.getLast_mem hne)
  have hlast := isHexDigit_last_of_taken _ h
  rw [exportName, String.toList_ofList, variantName, String.toList_ofList,
    exportChars_variantChars_append, List.getLast?_append_of_ne_nil _ hne,
    List.getLast?_eq_some_getLast hne, Option.any_some, hdigit] at hlast
  cases hlast

/-! ## Exports -/

section Keys

variable {all : List TagRule}

/-- A tag name that is not blocked has a component of its own, or a dispatcher. -/
theorem mem_exportKeys_of_mem_allowedRules {rule : TagRule} (h : rule ∈ allowedRules all) :
    ⟨rule.tagName, none⟩ ∈ exportKeys all := by
  obtain ⟨hrule, hallowed⟩ := mem_allowedRules_iff.1 h
  refine List.mem_append.2 ?_
  by_cases hmany : 1 < occurrences rule.tagName all
  · refine .inr (List.mem_map_of_mem (mem_dispatchedNames_iff.2 ⟨⟨rule, hrule, rfl⟩, ?_⟩))
    exact isDispatched_iff.2 ⟨hallowed, hmany⟩
  · refine .inl (List.mem_map.2 ⟨rule, h, ?_⟩)
    rw [ExportKey.ofRule, if_neg hmany]

theorem discriminator_ne_empty_of_mem {key : ExportKey} (h : key ∈ exportKeys all) :
    ∀ d, key.discriminator = some d → d ≠ "" := by
  rcases List.mem_append.1 h with h | h
  · obtain ⟨rule, -, rfl⟩ := List.mem_map.1 h
    intro d hd
    obtain ⟨-, hsome⟩ := Option.ite_none_right_eq_some.1 hd
    exact Option.some.inj hsome ▸ rule.discriminator_ne_empty
  · obtain ⟨tag, -, rfl⟩ := List.mem_map.1 h
    exact fun d hd => absurd hd (by simp)

theorem name_mem_takenNames_iff {key : ExportKey} (h : key ∈ exportKeys all) :
    key.name ∈ takenNames ↔ key.discriminator = none ∧ lowerText key.tagName ∈ takenTags := by
  cases hd : key.discriminator with
  | none =>
    have hname : key.name = exportName key.tagName := by rw [ExportKey.name, ExportKey.source, hd]
    rw [hname, exportName_mem_takenNames_iff]
    simp
  | some d =>
    have hname : key.name = exportName (variantName key.tagName d) := by
      rw [ExportKey.name, ExportKey.source, hd]
    rw [hname]
    simp [exportName_variantName_not_taken _ (discriminator_ne_empty_of_mem h d hd)]

theorem exists_taken_iff : (∃ key ∈ exportKeys all, key.name ∈ takenNames) ↔
    ∃ rule ∈ allowedRules all, lowerText rule.tagName ∈ takenTags := by
  constructor
  · rintro ⟨key, hkey, htaken⟩
    obtain ⟨rule, hrule, hname⟩ := exists_rule_of_mem_exportKeys hkey
    exact ⟨rule, hrule, hname ▸ ((name_mem_takenNames_iff hkey).1 htaken).2⟩
  · rintro ⟨rule, hrule, htaken⟩
    have hkey := mem_exportKeys_of_mem_allowedRules hrule
    exact ⟨_, hkey, (name_mem_takenNames_iff hkey).2 ⟨rfl, htaken⟩⟩

end Keys

/-! ## Bindings -/

namespace ComponentModule

/-- Every name is bound once, and none hides the global that the preamble calls. -/
def BindsApart (m : ComponentModule) : Prop :=
  m.bindings.Nodup ∧ "Object" ∉ m.exports ++ m.localNames

instance (m : ComponentModule) : Decidable m.BindsApart := inferInstanceAs (Decidable (_ ∧ _))

theorem bindings_perm (m : ComponentModule) :
    m.bindings.Perm (preambleNames ++ (m.localNames ++ m.exports)) := by
  have hcomponents : (m.components.flatMap (·.bindings)).Perm
      (m.localNames ++ m.components.map (·.name)) := by
    rw [localNames, List.filterMap_eq_flatMap_toList, List.map_eq_flatMap]
    exact (List.flatMap_append_perm _ _ _).symm
  rw [bindings, exports, ← List.append_assoc m.localNames]
  exact (hcomponents.append_right _).append_left _

theorem nodup_preambleNames : preambleNames.Nodup := by decide +kernel

/-- What is left to check once the exports differ and so do the imports. -/
theorem bindsApart_iff_of_nodup {m : ComponentModule} (hexports : m.exports.Nodup)
    (hlocals : m.localNames.Nodup) (hfree : ∀ name ∈ m.localNames, name ∉ takenNames) :
    m.BindsApart ↔
      (∀ name ∈ m.exports, name ∉ takenNames) ∧ ∀ name ∈ m.localNames, name ∉ m.exports := by
  rw [BindsApart, m.bindings_perm.nodup_iff, List.nodup_append, List.nodup_append]
  constructor
  · rintro ⟨⟨-, ⟨-, -, hlocal⟩, hpreamble⟩, hobject⟩
    refine ⟨fun name hname htaken => ?_, fun name hname hexport => hlocal _ hname _ hexport rfl⟩
    rcases List.mem_append.1 htaken with htaken | htaken
    · exact hpreamble _ htaken _ (List.mem_append_right _ hname) rfl
    · obtain rfl := List.mem_singleton.1 htaken
      exact hobject (List.mem_append_left _ hname)
  · rintro ⟨htaken, hlocal⟩
    have hfree : ∀ name ∈ m.localNames ++ m.exports, name ∉ takenNames :=
      List.forall_mem_append.2 ⟨hfree, htaken⟩
    refine ⟨⟨nodup_preambleNames, ⟨hlocals, hexports, ?_⟩, ?_⟩, fun hobject => ?_⟩
    · rintro name hname other hother rfl
      exact hlocal name hname hother
    · rintro name hname other hother rfl
      exact hfree name hother (List.mem_append_left _ hname)
    · exact hfree _ (List.mem_append.2 (List.mem_append.1 hobject).symm)
        (List.mem_append_right _ (List.mem_singleton_self _))

end ComponentModule

section Module

variable {parser : ScriptParser} {t : RuleTable} {c : Settings} {m : ComponentModule}
  (h : generate parser t c = .ok m)

include h

theorem localName?_of_mem {k : Component} (hk : k ∈ m.components) :
    k.localName? = if k.name ∈ c.overrides then some (k.name ++ "Override") else none := by
  obtain ⟨rule, -, props, -, rfl⟩ :=
    exists_rule_of_mem_components (assemble_of_generateWith h) hk
  simp only [Component.localName?, Component.declared, Settings.registry,
    Overrides.resolve_ofNames]
  by_cases hname : exportName (rule.sourceName t.tags) ∈ c.overrides
  · simp only [if_pos hname]
    rfl
  · simp only [if_neg hname]

/-- The imports are those of the components that the settings name. -/
theorem localNames_of_generate : m.localNames =
    ((m.components.map (·.name)).filter (· ∈ c.overrides)).map (· ++ "Override") := by
  have hnames : m.localNames = m.components.filterMap fun k =>
      if k.name ∈ c.overrides then some (k.name ++ "Override") else none :=
    List.filterMap_congr fun k hk => localName?_of_mem h hk
  rw [hnames, ← List.filterMap_eq_filter, List.map_filterMap, List.filterMap_map]
  refine List.filterMap_congr fun k _ => ?_
  by_cases hname : k.name ∈ c.overrides
  · simp [Option.guard, hname]
  · simp [Option.guard, hname]

theorem nodup_localNames (hexports : m.exports.Nodup) : m.localNames.Nodup := by
  rw [localNames_of_generate h]
  refine List.Nodup.map (fun _ _ heq => (String.append_left_inj _).1 heq) ?_
  exact (List.nodup_append.1 hexports).1.filter _

/-- They end with a letter that is a digit as well, so they are told from the fixed names as
variants are. -/
theorem localNames_not_taken : ∀ name ∈ m.localNames, name ∉ takenNames := by
  rw [localNames_of_generate h, List.forall_mem_map]
  intro name _ htaken
  have hlast := isHexDigit_last_of_taken _ htaken
  have hend : "Override".toList = ['O', 'v', 'e', 'r', 'r', 'i', 'd', 'e'] := String.toList_ofList
  rw [String.toList_append, hend, List.getLast?_append_of_ne_nil _ (by simp)] at hlast
  cases hlast

/-- The exports are free of the fixed names when the tag names are. -/
theorem forall_exports_not_taken_iff : (∀ name ∈ m.exports, name ∉ takenNames) ↔
    ∀ rule ∈ allowedRules t.tags, lowerText rule.tagName ∉ takenTags := by
  rw [exports_of_assemble (assemble_of_generateWith h), List.forall_mem_map]
  have htaken : (∃ key ∈ exportKeys t.tags, key.name ∈ takenNames) ↔
      ∃ rule ∈ allowedRules t.tags, lowerText rule.tagName ∈ takenTags := exists_taken_iff
  simpa only [not_exists, not_and] using not_congr htaken

theorem forall_localNames_iff : (∀ name ∈ m.localNames, name ∉ m.exports) ↔
    ∀ k ∈ m.components, k.name ∈ c.overrides → k.name ++ "Override" ∉ m.exports := by
  rw [localNames_of_generate h, List.forall_mem_map]
  simp only [List.mem_filter, decide_eq_true_eq, and_imp, List.forall_mem_map]

end Module

/-- What a module binds at its top, and when the names differ. -/
structure ComponentModule.TopLevel (m : ComponentModule) (t : RuleTable) (c : Settings) :
    Prop where
  /-- The lines that bind a name bind these, in their order. -/
  text : m.IsPrintable → (Text.lines m.text).filterMap Script.readBinding = m.bindings
  localNames : m.localNames =
    ((m.components.map (·.name)).filter (· ∈ c.overrides)).map (· ++ "Override")
  nodup_localNames : m.localNames.Nodup
  localNames_not_taken : ∀ name ∈ m.localNames, name ∉ takenNames
  variants_not_taken : ∀ k ∈ m.components, 1 < occurrences k.tagName t.tags →
    k.name ∉ takenNames
  bindsApart_iff : m.BindsApart ↔
    (∀ rule ∈ allowedRules t.tags, lowerText rule.tagName ∉ takenTags) ∧
      ∀ k ∈ m.components, k.name ∈ c.overrides → k.name ++ "Override" ∉ m.exports

theorem topLevel_of_generate {parser : ScriptParser} {t : RuleTable} {c : Settings}
    {m : ComponentModule} (h : generate parser t c = .ok m) (hexports : m.exports.Nodup) :
    m.TopLevel t c where
  text := ComponentModule.filterMap_readBinding_text
  localNames := localNames_of_generate h
  nodup_localNames := nodup_localNames h hexports
  localNames_not_taken := localNames_not_taken h
  variants_not_taken k hk hmany := by
    obtain ⟨rule, -, props, -, rfl⟩ :=
      exists_rule_of_mem_components (assemble_of_generateWith h) hk
    have hsource : rule.sourceName t.tags = variantName rule.tagName rule.discriminator :=
      if_pos hmany
    show exportName (rule.sourceName t.tags) ∉ takenNames
    rw [hsource]
    exact exportName_variantName_not_taken _ rule.discriminator_ne_empty
  bindsApart_iff := by
    rw [ComponentModule.bindsApart_iff_of_nodup hexports (nodup_localNames h hexports)
      (localNames_not_taken h), forall_exports_not_taken_iff h, forall_localNames_iff h]

theorem topLevel_sampleModule :
    generate abortingParser sampleTable { verify := false } = .ok sampleModule ∧
      sampleModule.exports.Nodup ∧
      sampleModule.TopLevel sampleTable { verify := false } :=
  ⟨generateWith_sampleTable _, by decide +kernel,
    topLevel_of_generate (generateWith_sampleTable abortingParser) (by decide +kernel)⟩

/-- The component of `react` has the name of the import. -/
theorem not_bindsApart_react : ¬∀ (t : RuleTable) (c : Settings) (m : ComponentModule),
    c.check = .ok () → c.verify = false → generate acceptingParser t c = .ok m → m.exports.Nodup →
      m.BindsApart := by
  intro h
  have hrun : generate acceptingParser ⟨[.named "react"], [], []⟩ { verify := false } =
      .ok ⟨"../AmpScripts", [⟨"React", "react", none, .element "react", [], [], []⟩], []⟩ := by
    decide +kernel
  exact absurd (h _ _ _ (by decide +kernel) rfl hrun (by decide +kernel)) (by decide +kernel)

/-- No tag name is taken here, and an import meets an export. -/
example : (generate acceptingParser ⟨[.named "amp-state", .named "amp-state-override"], [], []⟩
    { verify := false }).map (fun m => decide m.BindsApart) = .ok false := by decide +kernel

end AmpComponents
