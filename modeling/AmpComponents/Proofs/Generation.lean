/-
What a module holds, said of the table alone.

`Component.declared` is the component of one rule and `Dispatcher.declared` is the dispatcher of
one shared tag name; neither mentions a pass, a registry or an accumulator.  A run that succeeds
gives, in the order of the rules, the declared component of every rule that is not blocked, and,
in the order of first occurrence, the declared dispatcher of every shared tag name:

  `components_of_generateWith`, `dispatchers_of_generateWith`.

The registry enters through the invariant `Retention.Tracks` only.
-/
import AmpComponents.Generation
import AmpComponents.Proofs.Retention
import Mathlib.Data.List.Forall2

namespace AmpComponents

/-! ## What is declared -/

/-- The name from which the component of a rule is named. -/
def TagRule.sourceName (all : List TagRule) (rule : TagRule) : String :=
  if 1 < occurrences rule.tagName all then variantName rule.tagName rule.discriminator
  else rule.tagName

/-- The component of a rule with these properties. -/
def Component.declared (all : List TagRule) (overrides : Overrides) (rule : TagRule)
    (props : Props) : Component where
  name := exportName (rule.sourceName all)
  tagName := rule.tagName
  specName := if 1 < occurrences rule.tagName all then some rule.discriminator else rule.specName
  kind := match overrides.resolve (exportName (rule.sourceName all)) with
    | some binding => .handwritten binding
    | none => .element (Text.lowerText rule.tagName)
  propTypes := props.types
  defaultProps := props.defaults
  extensions := rule.requiresExtension.getD []

/-- The dispatcher of a tag name: its rules, in their order. -/
def Dispatcher.declared (all : List TagRule) (tag : String) : Dispatcher where
  name := exportName tag
  tagName := tag
  variants := (rulesFor tag all).map fun rule =>
    ⟨rule.discriminator, exportName (variantName tag rule.discriminator)⟩

/-! ## Lists of results -/

/-- A list is mapped to a result when every item is. -/
theorem mapM_eq_ok_iff_forall₂ {α β ε : Type} {f : α → Except ε β} {as : List α} {bs : List β} :
    as.mapM f = .ok bs ↔ List.Forall₂ (fun a b => f a = .ok b) as bs := by
  induction as generalizing bs with
  | nil =>
    rw [List.forall₂_nil_left_iff]
    show Except.ok [] = Except.ok bs ↔ bs = []
    rw [Except.ok.injEq, eq_comm]
  | cons a as ih =>
    rw [List.mapM_cons, List.forall₂_cons_left_iff]
    cases hfirst : f a with
    | error failure => simp [bind, Except.bind]
    | ok b =>
      cases hrest : as.mapM f with
      | error failure =>
        have hnone : ∀ bs, ¬List.Forall₂ (fun a b => f a = .ok b) as bs := by
          intro bs hbs
          rw [← ih, hrest] at hbs
          cases hbs
        simp [bind, Except.bind, hnone]
      | ok rest =>
        have hrest' : ∀ bs, List.Forall₂ (fun a b => f a = .ok b) as bs ↔ rest = bs := by
          intro bs
          rw [← ih, hrest, Except.ok.injEq]
        simp [bind, Except.bind, pure, Except.pure, hrest', eq_comm]

/-! ## Components -/

theorem RetainedTag.sourceName_ofRule (all : List TagRule) (rule : TagRule) :
    (RetainedTag.ofRule all rule).sourceName = rule.sourceName all := by
  unfold RetainedTag.ofRule TagRule.sourceName
  split <;> rfl

theorem RetainedTag.rule_ofRule (all : List TagRule) (rule : TagRule) :
    (RetainedTag.ofRule all rule).rule = rule := by
  unfold RetainedTag.ofRule
  split <;> rfl

theorem RetainedTag.specName_ofRule (all : List TagRule) (rule : TagRule) :
    (RetainedTag.ofRule all rule).specName =
      if 1 < occurrences rule.tagName all then some rule.discriminator else rule.specName := by
  unfold RetainedTag.ofRule
  split <;> rfl

/-- A retained rule yields the component that is declared for it, and fails as its references
do. -/
theorem Component.ofTag_ofRule (t : RuleTable) (overrides : Overrides) (rule : TagRule) :
    Component.ofTag t overrides (.ofRule t.tags rule) =
      (t.props rule).map (.declared t.tags overrides rule) := by
  unfold Component.ofTag
  rw [RetainedTag.rule_ofRule, RetainedTag.specName_ofRule, RetainedTag.sourceName_ofRule]
  cases t.props rule <;> rfl

/-- The second look for blocked tags finds none, and every rule that is left yields its declared
component. -/
theorem synthesizeComponents_of_tracks {t : RuleTable} {r : Retention}
    (h : Retention.Tracks t.tags t.tags r) (overrides : Overrides) :
    synthesizeComponents t overrides r.tags =
      (allowedRules t.tags).mapM fun rule =>
        (t.props rule).map (.declared t.tags overrides rule) := by
  have hkeep : r.tags.filter (fun tag => !isBlocked tag.rule.tagName) = r.tags := by
    apply List.filter_eq_self.2
    intro tag htag
    rw [h.tags] at htag
    obtain ⟨rule, hrule, rfl⟩ := List.mem_map.1 htag
    rw [RetainedTag.rule_ofRule, (mem_allowedRules_iff.1 hrule).2]
    rfl
  unfold synthesizeComponents
  rw [hkeep, h.tags, List.mapM_map]
  exact congrArg (List.mapM · _) (funext fun rule => Component.ofTag_ofRule t overrides rule)

/-! ## Dispatchers -/

theorem Dispatcher.ofEntry_of_tracks {all : List TagRule} {r : Retention}
    (h : Retention.Tracks all all r) {entry : String × OrderedMap String String}
    (hentry : entry ∈ r.shared.entries) : Dispatcher.ofEntry entry = .declared all entry.1 := by
  have hname : entry.1 ∈ dispatchedNames all all := h.names ▸ List.mem_map_of_mem hentry
  have hvariants : entry.2.entries = (rulesFor entry.1 all).map TagRule.variantEntry := by
    rw [← h.variants entry.1 (mem_dispatchedNames_iff.1 hname).2, SharedTags.variants,
      OrderedMap.find?_eq_some_of_mem hentry]
    rfl
  have hrules : ∀ rule ∈ rulesFor entry.1 all, Variant.ofEntry rule.variantEntry =
      ⟨rule.discriminator, exportName (variantName entry.1 rule.discriminator)⟩ := by
    intro rule hrule
    rw [← (mem_rulesFor_iff.1 hrule).2]
    rfl
  simp only [Dispatcher.ofEntry, Dispatcher.declared, hvariants, List.map_map,
    Function.comp_def, List.map_congr_left hrules]

/-- Every registered name yields its declared dispatcher. -/
theorem dispatchers_of_tracks {all : List TagRule} {r : Retention}
    (h : Retention.Tracks all all r) :
    r.shared.dispatchers = (dispatchedNames all all).map (.declared all) := by
  have hkeep : r.shared.entries.filter (fun entry => !isBlocked entry.1) = r.shared.entries := by
    apply List.filter_eq_self.2
    intro entry hentry
    have hname : entry.1 ∈ dispatchedNames all all := h.names ▸ List.mem_map_of_mem hentry
    rw [(isDispatched_iff.1 (mem_dispatchedNames_iff.1 hname).2).1]
    rfl
  unfold SharedTags.dispatchers
  rw [hkeep, ← h.names, OrderedMap.keys, List.map_map]
  exact List.map_congr_left fun entry hentry => Dispatcher.ofEntry_of_tracks h hentry

/-! ## Runs -/

/-- The table with other rules for the same attributes. -/
def RuleTable.withTags (t : RuleTable) (tags : List TagRule) : RuleTable := { t with tags := tags }

/-- The two stages of a module that is assembled. -/
theorem retention_of_assemble {t : RuleTable} {c : Settings} {overrides : Overrides}
    {m : ComponentModule} (h : assemble t c overrides = .ok m) :
    ∃ r, Retention.ofRules t.tags = .ok r ∧
      synthesizeComponents t overrides r.tags = .ok m.components ∧
      m.dispatchers = r.shared.dispatchers ∧ m.contextModule = c.contextModule := by
  unfold assemble at h
  cases hpass : Retention.ofRules t.tags with
  | error failure => rw [hpass] at h; cases h
  | ok r =>
    rw [hpass] at h
    cases hsynthesis : synthesizeComponents t overrides r.tags with
    | error failure =>
      simp only [bind, Except.bind, hsynthesis] at h
      cases h
    | ok components =>
      simp only [bind, Except.bind, hsynthesis, pure, Except.pure] at h
      cases h
      exact ⟨r, rfl, hsynthesis, rfl, rfl⟩

section Runs

variable {parser : ScriptParser} {t : RuleTable} {c : Settings} {overrides : Overrides}
  {m : ComponentModule}

/-- A run succeeds when its settings and its module can be used, and the parser accepts the text if
the settings ask for it. -/
theorem generateWith_eq_ok_iff : generateWith parser t c overrides = .ok m ↔
    c.check = .ok () ∧ (c.verify = true → (parser m.text).accepts = true) ∧
      assemble t c overrides = .ok m := by
  unfold generateWith
  cases hcheck : c.check with
  | error problem => simp
  | ok _ =>
    cases hassemble : assemble t c overrides with
    | error failure => simp [bind, Except.bind]
    | ok assembled =>
      have hverify : assembled.verify parser c = .ok () ↔
          (c.verify = true → (parser assembled.text).accepts = true) := by
        rw [ComponentModule.verify]
        split
        · next hon => simp [hon, verifyModule_eq_ok_iff]
        · next hoff => simp [hoff]
      simp only [bind, Except.bind, pure, Except.pure, Except.ok.injEq, true_and]
      cases hverified : assembled.verify parser c with
      | error failure =>
        rw [hverified] at hverify
        simp only [reduceCtorEq, false_iff] at hverify ⊢
        rintro ⟨haccepts, rfl⟩
        exact hverify haccepts
      | ok _ =>
        have haccepts := hverify.1 hverified
        constructor
        · rintro h
          cases h
          exact ⟨haccepts, rfl⟩
        · rintro ⟨-, rfl⟩
          rfl

theorem assemble_of_generateWith (h : generateWith parser t c overrides = .ok m) :
    assemble t c overrides = .ok m := (generateWith_eq_ok_iff.1 h).2.2

theorem components_of_assemble (h : assemble t c overrides = .ok m) :
    List.Forall₂ (fun rule component => ∃ props, t.props rule = .ok props ∧
      component = .declared t.tags overrides rule props) (allowedRules t.tags) m.components := by
  obtain ⟨r, hpass, hcomponents, -, -⟩ := retention_of_assemble h
  rw [synthesizeComponents_of_tracks (Retention.tracks_of_ofRules hpass),
    mapM_eq_ok_iff_forall₂] at hcomponents
  apply hcomponents.imp
  intro rule component hrule
  cases hprops : t.props rule with
  | error failure => rw [hprops] at hrule; cases hrule
  | ok props =>
    rw [hprops] at hrule
    cases hrule
    exact ⟨props, rfl, rfl⟩

theorem dispatchers_of_assemble (h : assemble t c overrides = .ok m) :
    m.dispatchers = (dispatchedNames t.tags t.tags).map (.declared t.tags) := by
  obtain ⟨r, hpass, -, hdispatchers, -⟩ := retention_of_assemble h
  rw [hdispatchers, dispatchers_of_tracks (Retention.tracks_of_ofRules hpass)]

theorem components_of_generateWith (h : generateWith parser t c overrides = .ok m) :
    List.Forall₂ (fun rule component => ∃ props, t.props rule = .ok props ∧
      component = .declared t.tags overrides rule props) (allowedRules t.tags) m.components :=
  components_of_assemble (assemble_of_generateWith h)

theorem dispatchers_of_generateWith (h : generateWith parser t c overrides = .ok m) :
    m.dispatchers = (dispatchedNames t.tags t.tags).map (.declared t.tags) :=
  dispatchers_of_assemble (assemble_of_generateWith h)

theorem nodup_dispatchedNames_of_generateWith (h : generateWith parser t c overrides = .ok m) :
    (dispatchedNames t.tags t.tags).Nodup := by
  obtain ⟨r, hpass, -⟩ := retention_of_assemble (assemble_of_generateWith h)
  exact Retention.nodup_dispatchedNames (Retention.tracks_of_ofRules hpass)

theorem tagNames_dispatchers_of_generateWith (h : generateWith parser t c overrides = .ok m) :
    m.dispatchers.map (·.tagName) = dispatchedNames t.tags t.tags := by
  rw [dispatchers_of_generateWith h, List.map_map]
  exact List.map_id _

theorem exists_tagName_eq_of_occurrences_pos {rules : List TagRule} {tag : String}
    (h : 0 < occurrences tag rules) : ∃ rule ∈ rules, rule.tagName = tag := by
  simpa using List.countP_pos_iff.1 h

end Runs

/-- A module lists what its table declares and nothing else. -/
structure ComponentModule.IsDeclared (m : ComponentModule) (t : RuleTable) (c : Settings)
    (overrides : Overrides) : Prop where
  contextModule : m.contextModule = c.contextModule
  /-- One component for each rule that is not blocked, in the order of the rules. -/
  components : List.Forall₂ (fun rule component => ∃ props, t.props rule = .ok props ∧
    component = .declared t.tags overrides rule props) (allowedRules t.tags) m.components
  /-- One dispatcher for each shared tag name, in the order of first occurrence. -/
  dispatchers : m.dispatchers = (dispatchedNames t.tags t.tags).map (.declared t.tags)
  nodup_tagNames : (m.dispatchers.map (·.tagName)).Nodup
  mem_tagNames_iff : ∀ tag, tag ∈ m.dispatchers.map (·.tagName) ↔
    isBlocked tag = false ∧ 1 < occurrences tag t.tags

theorem isDeclared_of_generateWith {parser : ScriptParser} {t : RuleTable} {c : Settings}
    {overrides : Overrides} {m : ComponentModule}
    (h : generateWith parser t c overrides = .ok m) : m.IsDeclared t c overrides where
  contextModule := by
    obtain ⟨r, -, -, -, hcontext⟩ := retention_of_assemble (assemble_of_generateWith h)
    exact hcontext
  components := components_of_generateWith h
  dispatchers := dispatchers_of_generateWith h
  nodup_tagNames := by
    rw [tagNames_dispatchers_of_generateWith h]
    exact nodup_dispatchedNames_of_generateWith h
  mem_tagNames_iff tag := by
    rw [tagNames_dispatchers_of_generateWith h, mem_dispatchedNames_iff, isDispatched_iff]
    refine ⟨fun hmem => hmem.2, fun hshared => ⟨?_, hshared⟩⟩
    exact exists_tagName_eq_of_occurrences_pos (Nat.lt_of_succ_lt hshared.2)

/-! ## A table with every kind of rule

Two rules share a tag name, one of them by the name of its extension; one tag name is blocked, one
component is written by hand, and one attribute is mandatory. -/

def sampleTable : RuleTable where
  tags :=
    [⟨"amp-ad", some "a", none, [1, -1], none⟩,
     .named "O:P",
     ⟨"AMP-STATE", none, none, [], some ["amp-bind"]⟩,
     ⟨"amp-ad", some "", some ⟨some "é"⟩, [], none⟩]
  attrs := [⟨none, none, none⟩, ⟨some "src", some true, some "x"⟩]
  internedStrings := [.text "layout", .record ⟨some "width", none, some "100"⟩]

def sampleModule : ComponentModule where
  contextModule := "../AmpScripts"
  components :=
    [⟨"AmpAd_61", "amp-ad", some "a", .element "amp-ad", [⟨"src", true⟩, ⟨"width", false⟩],
       [⟨"width", "100"⟩], []⟩,
     ⟨"AmpState", "AMP-STATE", none, .handwritten ⟨"AmpStateOverride", "./components/AmpState"⟩,
       [], [], ["amp-bind"]⟩,
     ⟨"AmpAd_c3a9", "amp-ad", some "é", .element "amp-ad", [], [], []⟩]
  dispatchers := [⟨"AmpAd", "amp-ad", [⟨"a", "AmpAd_61"⟩, ⟨"é", "AmpAd_c3a9"⟩]⟩]

/-- A parser that finds nothing wrong. -/
def acceptingParser : ScriptParser := fun _ => ⟨false, []⟩

/-- A parser that gives up on every text. -/
def abortingParser : ScriptParser := fun _ => ⟨true, []⟩

theorem assemble_sampleTable :
    assemble sampleTable { verify := false } Settings.default.registry = .ok sampleModule := by
  decide +kernel

/-- Which parser there is does not matter to settings that ask for none. -/
theorem generateWith_sampleTable (parser : ScriptParser) :
    generateWith parser sampleTable { verify := false } Settings.default.registry =
      .ok sampleModule :=
  generateWith_eq_ok_iff.2 ⟨by decide +kernel, nofun, assemble_sampleTable⟩

theorem isDeclared_sampleModule :
    generateWith abortingParser sampleTable { verify := false } Settings.default.registry =
        .ok sampleModule ∧
      sampleModule.IsDeclared sampleTable { verify := false } Settings.default.registry :=
  ⟨generateWith_sampleTable _, isDeclared_of_generateWith (generateWith_sampleTable abortingParser)⟩

end AmpComponents
