/-
The identifiers a module exports.

Nothing in a run compares the exported names of different tags, so that they differ is owed to how
they derive.  A component is named after its tag name when no other rule has it, and after its tag
name and its discriminator otherwise; a dispatcher is named after its tag name.  `ExportKey` is what
a name is made from.  The keys of a module differ because the pass over the rules tells them apart
(`nodup_exportKeys`), and on tag names that are made of words and differ by more than case, the
name determines its key (`ExportKey.name_inj`).

Both conditions on the tag names are needed: a word that starts with a digit shows no capital, and
case is lost.
-/
import AmpComponents.Proofs.Dispatch
import AmpComponents.Proofs.ExportName.Words

namespace AmpComponents

open Text

/-! ## Forms of names -/

/-- A capital, then letters and digits. -/
def isCapitalised : List Char → Bool
  | [] => false
  | c :: rest => c.isUpper && rest.all Char.isAlphanum

/-- A capital, letters and digits, an underscore, and pairs of hexadecimal digits. -/
def IsVariantForm (name : List Char) : Prop :=
  ∃ head digits, name = head ++ '_' :: digits ∧ isCapitalised head = true ∧ digits ≠ [] ∧
    digits.length % 2 = 0 ∧ ∀ c ∈ digits, isHexDigit c = true

theorem isCapitalised_iff {c : Char} {rest : List Char} :
    isCapitalised (c :: rest) = true ↔ c.isUpper = true ∧ ∀ d ∈ rest, d.isAlphanum = true := by
  simp [isCapitalised]

theorem isAlphanum_toLower {c : Char} (h : c.isAlphanum = true) : c.toLower.isAlphanum = true := by
  by_cases hc : c.isAlpha = true
  · exact isAlphanum_of_isAlpha (by rwa [Char.isAlpha_toLower_eq_isAlpha])
  · have hupper : ¬c.isUpper = true := fun h => hc (by simp [Char.isAlpha, h])
    rwa [Char.toLower_eq_of_not_isUpper hupper]

theorem isCapitalised_capitalWord {w : List Char} (h : isTagWord w = true) :
    isCapitalised (capitalWord w) = true := by
  cases w with
  | nil => cases h
  | cons c rest =>
    obtain ⟨hc, hrest⟩ := isTagWord_cons.1 h
    refine isCapitalised_iff.2 ⟨by rwa [Char.isUpper_toUpper_eq_isAlpha], fun d hd => ?_⟩
    obtain ⟨e, he, rfl⟩ := List.mem_map.1 hd
    exact isAlphanum_toLower (hrest e he)

theorem isAlphanum_of_isCapitalised {s : List Char} (h : isCapitalised s = true) :
    ∀ c ∈ s, c.isAlphanum = true := by
  cases s with
  | nil => cases h
  | cons c rest =>
    obtain ⟨hc, hrest⟩ := isCapitalised_iff.1 h
    exact List.forall_mem_cons.2 ⟨isAlphanum_of_isAlpha (by simp [Char.isAlpha, hc]), hrest⟩

theorem isCapitalised_append {s t : List Char} (hs : isCapitalised s = true)
    (ht : ∀ c ∈ t, c.isAlphanum = true) : isCapitalised (s ++ t) = true := by
  cases s with
  | nil => cases hs
  | cons c rest =>
    obtain ⟨hc, hrest⟩ := isCapitalised_iff.1 hs
    refine isCapitalised_iff.2 ⟨hc, fun d hd => ?_⟩
    exact (List.mem_append.1 hd).elim (hrest d) (ht d)

theorem isCapitalised_exportChars {tag : String} (h : isHyphenated tag = true) :
    isCapitalised (exportChars tag.toList) = true := by
  obtain ⟨w, ws, hw, hws, hsplit, -⟩ := exists_words h
  rw [exportChars_hyphenated h, hsplit, List.flatMap_cons]
  refine isCapitalised_append (isCapitalised_capitalWord hw) fun c hc => ?_
  obtain ⟨v, hv, hc⟩ := List.mem_flatMap.1 hc
  exact isAlphanum_of_isCapitalised (isCapitalised_capitalWord (hws v hv)) c hc

theorem ne_underscore_of_isCapitalised {s : List Char} (h : isCapitalised s = true) :
    ∀ c ∈ s, decide (c ≠ '_') = true := by
  intro c hc
  have halphanum := isAlphanum_of_isCapitalised h c hc
  rw [decide_eq_true_eq]
  rintro rfl
  cases halphanum

theorem isCapitalised_exportName {tag : String} (h : isHyphenated tag = true) :
    isCapitalised (exportName tag).toList = true := by
  rw [exportName, String.toList_ofList]
  exact isCapitalised_exportChars h

theorem toList_exportName_variantName {tag : String} (h : isHyphenated tag = true) (d : String) :
    (exportName (variantName tag d)).toList = exportChars tag.toList ++ '_' :: hex d := by
  rw [exportName, String.toList_ofList, variantName, String.toList_ofList,
    exportChars_variantChars (getLast?_ne_of_isHyphenated h)]

theorem isVariantForm_exportName {tag d : String} (h : isHyphenated tag = true) (hd : d ≠ "") :
    IsVariantForm (exportName (variantName tag d)).toList := by
  refine ⟨exportChars tag.toList, hex d, toList_exportName_variantName h d,
    isCapitalised_exportChars h, ?_, ?_, forall_mem_hex (by decide) d⟩
  · intro hnil
    exact hd (hex_inj.1 hnil)
  · rw [hex, length_hexBytes]
    omega

/-! ## Keys -/

/-- What an exported name is made from: a tag name, and a discriminator for a variant. -/
structure ExportKey where
  tagName : String
  discriminator : Option String
  deriving DecidableEq

namespace ExportKey

/-- The name of the tag or of the variant. -/
def source (key : ExportKey) : String :=
  match key.discriminator with
  | none => key.tagName
  | some d => variantName key.tagName d

def name (key : ExportKey) : String := exportName key.source

/-- The key of a rule's component. -/
def ofRule (all : List TagRule) (rule : TagRule) : ExportKey :=
  ⟨rule.tagName, if 1 < occurrences rule.tagName all then some rule.discriminator else none⟩

theorem source_ofRule (all : List TagRule) (rule : TagRule) :
    (ofRule all rule).source = rule.sourceName all := by
  unfold source ofRule TagRule.sourceName
  by_cases hmany : 1 < occurrences rule.tagName all
  · simp only [if_pos hmany]
  · simp only [if_neg hmany]

/-- What a name has behind the name of the tag. -/
def suffix (key : ExportKey) : List Char :=
  match key.discriminator with
  | none => []
  | some d => '_' :: hex d

theorem ends_suffix (key : ExportKey) : Ends (fun c => decide (c ≠ '_')) key.suffix := by
  unfold suffix
  split
  · exact ends_nil
  · exact ends_cons (by decide) _

theorem discriminator_eq_of_suffix_eq {k l : ExportKey} (h : k.suffix = l.suffix) :
    k.discriminator = l.discriminator := by
  unfold suffix at h
  cases hk : k.discriminator with
  | none =>
    cases hl : l.discriminator with
    | none => rfl
    | some e =>
      rw [hk, hl] at h
      cases h
  | some d =>
    cases hl : l.discriminator with
    | none =>
      rw [hk, hl] at h
      cases h
    | some e =>
      rw [hk, hl] at h
      rw [hex_inj.1 (List.cons.inj h).2]

theorem toList_name {key : ExportKey} (h : isHyphenated key.tagName = true) :
    key.name.toList = exportChars key.tagName.toList ++ key.suffix := by
  unfold name source suffix
  cases key.discriminator with
  | none => rw [exportName, String.toList_ofList, List.append_nil]
  | some d => exact toList_exportName_variantName h d

/-- The underscore cuts the name of the tag from the digits. -/
theorem eq_of_name_eq {k l : ExportKey} (hk : isHyphenated k.tagName = true)
    (hl : isHyphenated l.tagName = true) (h : k.name = l.name) :
    exportChars k.tagName.toList = exportChars l.tagName.toList ∧
      k.discriminator = l.discriminator := by
  have hchars := congrArg String.toList h
  rw [toList_name hk, toList_name hl] at hchars
  obtain ⟨htag, hsuffix⟩ := span_append_inj
    (ne_underscore_of_isCapitalised (isCapitalised_exportChars hk))
    (ne_underscore_of_isCapitalised (isCapitalised_exportChars hl))
    k.ends_suffix l.ends_suffix hchars
  exact ⟨htag, discriminator_eq_of_suffix_eq hsuffix⟩

end ExportKey

/-- The keys of what a table's module exports: its components, then its dispatchers. -/
def exportKeys (all : List TagRule) : List ExportKey :=
  (allowedRules all).map (.ofRule all) ++ (dispatchedNames all all).map (⟨·, none⟩)

/-- Two rules with one key would share their tag name, and then their discriminator. -/
theorem nodup_map_ofRule {all : List TagRule} (h : all.Pairwise TagRule.TellsApart) :
    ((allowedRules all).map (ExportKey.ofRule all)).Nodup := by
  rw [List.Nodup, List.pairwise_map, List.pairwise_iff_forall_sublist]
  intro a b hpair hkey
  have hall : [a, b].Sublist all := hpair.trans List.filter_sublist
  have hb : b ∈ allowedRules all := hpair.subset (by simp)
  obtain ⟨hname, hdiscriminator⟩ := ExportKey.mk.inj hkey
  have hmany := occurrences_of_pair hall hname
  rw [hname, if_pos hmany, if_pos hmany] at hdiscriminator
  exact List.pairwise_iff_forall_sublist.1 h hall (mem_allowedRules_iff.1 hb).2 hname
    (Option.some.inj hdiscriminator)

theorem nodup_exportKeys {all : List TagRule} {r : Retention} (h : Retention.Tracks all all r) :
    (exportKeys all).Nodup := by
  have hrules := nodup_map_ofRule (Retention.pairwise_tellsApart h (List.Sublist.refl all))
  have hnames := Retention.nodup_dispatchedNames h
  refine List.nodup_append.2 ⟨hrules, hnames.map fun a b heq => (ExportKey.mk.inj heq).1, ?_⟩
  rintro key hkey other hother rfl
  obtain ⟨rule, -, rfl⟩ := List.mem_map.1 hkey
  obtain ⟨tag, htag, heq⟩ := List.mem_map.1 hother
  obtain ⟨hname, hnone⟩ := ExportKey.mk.inj heq
  have hmany := (isDispatched_iff.1 (mem_dispatchedNames_iff.1 htag).2).2
  rw [hname] at hmany
  rw [if_pos hmany] at hnone
  cases hnone

theorem exists_allowedRule_of_mem_dispatchedNames {all : List TagRule} {tag : String}
    (h : tag ∈ dispatchedNames all all) : ∃ rule ∈ allowedRules all, rule.tagName = tag := by
  obtain ⟨⟨rule, hrule, rfl⟩, hdispatched⟩ := mem_dispatchedNames_iff.1 h
  exact ⟨rule, mem_allowedRules_iff.2 ⟨hrule, (isDispatched_iff.1 hdispatched).1⟩, rfl⟩

/-- Every key is made from the tag name of a rule that is not blocked. -/
theorem exists_rule_of_mem_exportKeys {all : List TagRule} {key : ExportKey}
    (h : key ∈ exportKeys all) : ∃ rule ∈ allowedRules all, rule.tagName = key.tagName := by
  rcases List.mem_append.1 h with h | h
  · obtain ⟨rule, hrule, rfl⟩ := List.mem_map.1 h
    exact ⟨rule, hrule, rfl⟩
  · obtain ⟨tag, htag, rfl⟩ := List.mem_map.1 h
    exact exists_allowedRule_of_mem_dispatchedNames htag

/-! ## Modules -/

section Module

variable {t : RuleTable} {c : Settings} {overrides : Overrides} {m : ComponentModule}

theorem names_components_of_assemble (h : assemble t c overrides = .ok m) :
    m.components.map (·.name) =
      (allowedRules t.tags).map fun rule => (ExportKey.ofRule t.tags rule).name := by
  symm
  rw [← List.forall₂_eq_eq_eq, List.forall₂_map_left_iff, List.forall₂_map_right_iff]
  apply (components_of_assemble h).imp
  rintro rule component ⟨props, -, rfl⟩
  exact congrArg exportName (ExportKey.source_ofRule t.tags rule)

theorem exports_of_assemble (h : assemble t c overrides = .ok m) :
    m.exports = (exportKeys t.tags).map (·.name) := by
  rw [ComponentModule.exports, names_components_of_assemble h, dispatchers_of_assemble h,
    exportKeys, List.map_append, List.map_map, List.map_map, List.map_map]
  rfl

end Module

/-- Exported names are told apart, and their form tells tags from variants. -/
structure ComponentModule.NamesApart (m : ComponentModule) (all : List TagRule) : Prop where
  nodup : m.exports.Nodup
  component : ∀ k ∈ m.components, ¬1 < occurrences k.tagName all →
    isCapitalised k.name.toList = true
  component_of_shared : ∀ k ∈ m.components, 1 < occurrences k.tagName all →
    IsVariantForm k.name.toList
  dispatcher : ∀ d ∈ m.dispatchers, isCapitalised d.name.toList = true
  variant : ∀ d ∈ m.dispatchers, ∀ v ∈ d.variants, IsVariantForm v.component.toList

/-- Tag names that are not blocked are made of words, and differ by more than case. -/
structure TellApart (rules : List TagRule) : Prop where
  hyphenated : ∀ rule ∈ allowedRules rules, isHyphenated rule.tagName = true
  tagName_eq : ∀ a ∈ allowedRules rules, ∀ b ∈ allowedRules rules,
    a.tagName.toList.map Char.toLower = b.tagName.toList.map Char.toLower → a.tagName = b.tagName

theorem ExportKey.name_inj {rules : List TagRule} (h : TellApart rules) {k l : ExportKey}
    (hk : k ∈ exportKeys rules) (hl : l ∈ exportKeys rules) (heq : k.name = l.name) : k = l := by
  obtain ⟨a, ha, hka⟩ := exists_rule_of_mem_exportKeys hk
  obtain ⟨b, hb, hlb⟩ := exists_rule_of_mem_exportKeys hl
  have hkform : isHyphenated k.tagName = true := hka ▸ h.hyphenated a ha
  have hlform : isHyphenated l.tagName = true := hlb ▸ h.hyphenated b hb
  obtain ⟨htag, hdiscriminator⟩ := eq_of_name_eq hkform hlform heq
  have hlower := map_toLower_eq_of_exportChars_eq hkform hlform htag
  rw [← hka, ← hlb] at hlower
  have hname : k.tagName = l.tagName := hka ▸ hlb ▸ h.tagName_eq a ha b hb hlower
  obtain ⟨t, d⟩ := k
  obtain ⟨u, e⟩ := l
  obtain rfl : t = u := hname
  obtain rfl : d = e := hdiscriminator
  rfl

theorem namesApart_of_assemble {t : RuleTable} {c : Settings} {overrides : Overrides}
    {m : ComponentModule} (htags : TellApart t.tags) (h : assemble t c overrides = .ok m) :
    m.NamesApart t.tags where
  nodup := by
    obtain ⟨r, hpass, -⟩ := retention_of_assemble h
    rw [exports_of_assemble h]
    refine List.Nodup.map_on ?_ (nodup_exportKeys (Retention.tracks_of_ofRules hpass))
    exact fun k hk l hl => ExportKey.name_inj htags hk hl
  component k hk hfew := by
    obtain ⟨rule, hrule, props, -, rfl⟩ := exists_rule_of_mem_components h hk
    have hsource : rule.sourceName t.tags = rule.tagName := if_neg hfew
    show isCapitalised (exportName (rule.sourceName t.tags)).toList = true
    rw [hsource]
    exact isCapitalised_exportName (htags.hyphenated rule hrule)
  component_of_shared k hk hmany := by
    obtain ⟨rule, hrule, props, -, rfl⟩ := exists_rule_of_mem_components h hk
    have hsource : rule.sourceName t.tags = variantName rule.tagName rule.discriminator :=
      if_pos hmany
    show IsVariantForm (exportName (rule.sourceName t.tags)).toList
    rw [hsource]
    exact isVariantForm_exportName (htags.hyphenated rule hrule) rule.discriminator_ne_empty
  dispatcher d hd := by
    rw [dispatchers_of_assemble h] at hd
    obtain ⟨tag, htag, rfl⟩ := List.mem_map.1 hd
    obtain ⟨rule, hrule, rfl⟩ := exists_allowedRule_of_mem_dispatchedNames htag
    exact isCapitalised_exportName (htags.hyphenated rule hrule)
  variant d hd v hv := by
    rw [dispatchers_of_assemble h] at hd
    obtain ⟨tag, htag, rfl⟩ := List.mem_map.1 hd
    obtain ⟨rule, hrule, rfl⟩ := exists_allowedRule_of_mem_dispatchedNames htag
    obtain ⟨other, -, rfl⟩ := List.mem_map.1 hv
    exact isVariantForm_exportName (htags.hyphenated rule hrule) other.discriminator_ne_empty

theorem tellApart_sampleTable : TellApart sampleTable.tags :=
  ⟨by decide +kernel, by decide +kernel⟩

theorem namesApart_sampleModule :
    TellApart sampleTable.tags ∧
      assemble sampleTable { verify := false } Settings.default.registry = .ok sampleModule ∧
      sampleModule.NamesApart sampleTable.tags :=
  ⟨tellApart_sampleTable, assemble_sampleTable,
    namesApart_of_assemble tellApart_sampleTable assemble_sampleTable⟩

/-- A word that starts with a digit shows no capital. -/
example : exportName "amp-3d" = exportName "amp3d" := by decide +kernel

end AmpComponents
