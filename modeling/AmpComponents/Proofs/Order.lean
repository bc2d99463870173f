/-
The order of the rules.

The rules of a table may be put into any other order: which runs succeed stays, a run that fails
fails in the same way, every rule has the same component, and the dispatchers select what they
selected before (`isOrderFree_generateWith`).  Two things may differ.  Components, dispatchers and
variants come in the order of their rules, and of several failures of one kind the first one is
reported.

No step of the pass over the rules commutes with another, since each one looks at what was
registered before it.  So nothing here follows the pass.  What a run answers is known from the
table alone, by `Verdict` and by what is declared for each rule, and there a rule counts by what
the others are, not by where they stand: by how often its tag name occurs, by whether any two
rules are alike, and by whether any reference dangles.
-/
import AmpComponents.Proofs.Dispatch
import AmpComponents.Proofs.Outcome

namespace AmpComponents

/-! ## Kinds of failures -/

/-- A failure without what it is about. -/
inductive FailureKind where
  | schemaMismatch
  | danglingAttribute
  | duplicateVariant
  | file
  | settings
  | unreadableScript
  deriving DecidableEq, Repr

def Failure.kind : Failure → FailureKind
  | .schemaMismatch _ => .schemaMismatch
  | .danglingAttribute .. => .danglingAttribute
  | .duplicateVariant .. => .duplicateVariant
  | .file _ => .file
  | .settings _ => .settings
  | .unreadableScript _ => .unreadableScript

theorem RuleTable.kind_danglingFailure (t : RuleTable) (tagName : String) (r : Int64) :
    (t.danglingFailure tagName r).kind = .danglingAttribute := by
  unfold danglingFailure
  split <;> rfl

instance (earlier rule : TagRule) : Decidable (earlier.TellsApart rule) :=
  inferInstanceAs (Decidable (_ → _ → _))

/-- The kind of failure a table leads to, said without places. -/
def RuleTable.failureKind? (t : RuleTable) (c : Settings) : Option FailureKind :=
  match c.check with
  | .error _ => some .settings
  | .ok () =>
    if ¬t.tags.Pairwise TagRule.TellsApart then some .duplicateVariant
    else if t.references.any fun p => t.dangles p.2 then some .danglingAttribute
    else none

theorem pairwise_tellsApart_of_not_repeatsAt {rules : List TagRule}
    (h : ∀ j rule, ¬RepeatsAt rules j rule) : rules.Pairwise TagRule.TellsApart := by
  rw [List.pairwise_iff_getElem]
  intro i j hi hj hij hallowed hname hdiscriminator
  refine h j rules[j] ⟨List.getElem?_eq_getElem hj, hallowed, i, hij, rules[i], ?_, hname,
    hdiscriminator⟩
  exact List.getElem?_eq_getElem hi

theorem Verdict.map_kind {t : RuleTable} {c : Settings} {failure : Option Failure}
    (h : Verdict t c failure) : failure.map Failure.kind = t.failureKind? c := by
  cases h with
  | settings hcheck =>
    rw [RuleTable.failureKind?, hcheck]
    rfl
  | duplicateVariant hcheck hrepeats _ =>
    have hnot : ¬t.tags.Pairwise TagRule.TellsApart := fun hapart =>
      not_repeatsAt hapart _ _ hrepeats
    rw [RuleTable.failureKind?, hcheck]
    simp only [if_pos hnot]
    rfl
  | danglingAttribute hcheck hapart hfind =>
    have hpairwise := pairwise_tellsApart_of_not_repeatsAt hapart
    have hdangles := List.find?_some hfind
    have hany : t.references.any (fun p => t.dangles p.2) = true :=
      List.any_eq_true.2 ⟨_, List.mem_of_find?_eq_some hfind, hdangles⟩
    rw [RuleTable.failureKind?, hcheck]
    simp only [hpairwise, not_true_eq_false, if_false, if_pos hany]
    exact congrArg some (t.kind_danglingFailure _ _)
  | success hcheck hapart hsound =>
    have hpairwise := pairwise_tellsApart_of_not_repeatsAt hapart
    have hany : ¬t.references.any (fun p => t.dangles p.2) = true := by
      rw [List.any_eq_true]
      rintro ⟨p, hp, hdangles⟩
      rw [hsound p hp] at hdangles
      cases hdangles
    rw [RuleTable.failureKind?, hcheck]
    simp only [hpairwise, not_true_eq_false, if_false, if_neg hany]
    rfl

/-! ## Tables in another order -/

section Reordered

variable {rules rules' : List TagRule}

theorem occurrences_of_perm (h : rules.Perm rules') (tag : String) :
    occurrences tag rules = occurrences tag rules' := h.countP_eq _

theorem allowedRules_perm (h : rules.Perm rules') :
    (allowedRules rules).Perm (allowedRules rules') := h.filter _

theorem rulesFor_perm (h : rules.Perm rules') (tag : String) :
    (rulesFor tag rules).Perm (rulesFor tag rules') := h.filter _

/-- Two rules of one tag name are both blocked or neither is. -/
theorem TagRule.TellsApart.symm {a b : TagRule} (h : a.TellsApart b) : b.TellsApart a :=
  fun hallowed hname hsame => h (hname ▸ hallowed) hname.symm hsame.symm

theorem pairwise_tellsApart_of_perm (h : rules.Perm rules') :
    rules.Pairwise TagRule.TellsApart ↔ rules'.Pairwise TagRule.TellsApart :=
  h.pairwise_iff TagRule.TellsApart.symm

theorem isDispatched_of_perm (h : rules.Perm rules') : isDispatched rules = isDispatched rules' := by
  funext tag
  rw [isDispatched, isDispatched, occurrences_of_perm h]

theorem mem_dispatchedNames_of_perm (h : rules.Perm rules') {tag : String} :
    tag ∈ dispatchedNames rules rules ↔ tag ∈ dispatchedNames rules' rules' := by
  simp only [mem_dispatchedNames_iff, isDispatched_of_perm h, h.mem_iff]

theorem sourceName_of_perm (h : rules.Perm rules') (rule : TagRule) :
    rule.sourceName rules = rule.sourceName rules' := by
  rw [TagRule.sourceName, TagRule.sourceName, occurrences_of_perm h]

theorem component_of_perm (h : rules.Perm rules') (overrides : Overrides) (rule : TagRule)
    (props : Props) :
    Component.declared rules overrides rule props = .declared rules' overrides rule props := by
  rw [Component.declared, Component.declared, sourceName_of_perm h, occurrences_of_perm h]

theorem variants_of_perm (h : rules.Perm rules') (tag : String) :
    (Dispatcher.declared rules tag).variants.Perm (Dispatcher.declared rules' tag).variants :=
  (rulesFor_perm h tag).map _

theorem references_perm (t : RuleTable) (h : t.tags.Perm rules) :
    t.references.Perm (t.withTags rules).references :=
  (allowedRules_perm h).flatMap_right _

theorem failureKind?_of_perm (t : RuleTable) (c : Settings) (h : t.tags.Perm rules) :
    (t.withTags rules).failureKind? c = t.failureKind? c := by
  have hany : (t.withTags rules).references.any (fun p => (t.withTags rules).dangles p.2) =
      t.references.any fun p => t.dangles p.2 := (references_perm t h).any_eq.symm
  have hpairwise : (t.withTags rules).tags.Pairwise TagRule.TellsApart ↔
      t.tags.Pairwise TagRule.TellsApart := (pairwise_tellsApart_of_perm h).symm
  simp only [RuleTable.failureKind?, hany, hpairwise]

end Reordered

/-! ## Dispatchers -/

/-- Two dispatchers that do the same, with their variants in whatever order. -/
structure Dispatcher.Matches (d e : Dispatcher) : Prop where
  name : d.name = e.name
  tagName : d.tagName = e.tagName
  variants : d.variants.Perm e.variants
  select : ∀ s, d.select s = e.select s

/-- When no name stands twice, the order of the variants does not matter to what is selected. -/
theorem Dispatcher.select_eq_of_perm {d e : Dispatcher} (hnodup : d.specNames.Nodup)
    (h : d.variants.Perm e.variants) (s : String) : d.select s = e.select s := by
  have hnodup' : e.specNames.Nodup := (h.map _).nodup_iff.1 hnodup
  apply Option.ext
  intro n
  rw [select_eq_some_iff_mem hnodup, select_eq_some_iff_mem hnodup', h.mem_iff]

/-! ## Runs -/

section Runs

variable {parser : ScriptParser} {t : RuleTable} {c : Settings} {overrides : Overrides}
  {m n : ComponentModule}

/-- The component a rule has when its references are sound. -/
def RuleTable.component (t : RuleTable) (overrides : Overrides) (rule : TagRule) : Component :=
  .declared t.tags overrides rule ((t.props rule).toOption.getD ⟨[], []⟩)

theorem components_eq_map (h : generateWith parser t c overrides = .ok m) :
    m.components = (allowedRules t.tags).map (t.component overrides) := by
  symm
  rw [← List.forall₂_eq_eq_eq, List.forall₂_map_left_iff]
  apply (components_of_generateWith h).imp
  rintro rule component ⟨props, hprops, rfl⟩
  rw [RuleTable.component, hprops]
  rfl

/-- The run on the rules in another order has the components of this table. -/
theorem components_withTags_eq_map {tags : List TagRule} (h : t.tags.Perm tags)
    (hn : generateWith parser (t.withTags tags) c overrides = .ok n) :
    n.components = (allowedRules tags).map (t.component overrides) := by
  rw [components_eq_map hn]
  apply List.map_congr_left
  intro rule _
  exact (component_of_perm h overrides rule _).symm

theorem tagNames_perm {tags : List TagRule} (h : t.tags.Perm tags)
    (hm : generateWith parser t c overrides = .ok m)
    (hn : generateWith parser (t.withTags tags) c overrides = .ok n) :
    (m.dispatchers.map (·.tagName)).Perm (n.dispatchers.map (·.tagName)) := by
  rw [tagNames_dispatchers_of_generateWith hm, tagNames_dispatchers_of_generateWith hn]
  rw [List.perm_ext_iff_of_nodup (nodup_dispatchedNames_of_generateWith hm)
    (nodup_dispatchedNames_of_generateWith hn)]
  exact fun tag => mem_dispatchedNames_of_perm h

theorem matches_of_mem_dispatchers {tags : List TagRule} (h : t.tags.Perm tags)
    (hm : generateWith parser t c overrides = .ok m)
    (hn : generateWith parser (t.withTags tags) c overrides = .ok n) {d e : Dispatcher}
    (hd : d ∈ m.dispatchers) (he : e ∈ n.dispatchers) (hname : d.tagName = e.tagName) :
    d.Matches e := by
  obtain ⟨htag, hdeclared⟩ := declared_of_mem_dispatchers hm hd
  obtain ⟨-, hdeclared'⟩ := declared_of_mem_dispatchers hn he
  have hvariants : d.variants.Perm e.variants := by
    rw [hdeclared, hdeclared', ← hname]
    exact variants_of_perm h d.tagName
  have hnodup : d.specNames.Nodup := hdeclared ▸ nodup_specNames_declared hm htag
  refine ⟨?_, hname, hvariants, Dispatcher.select_eq_of_perm hnodup hvariants⟩
  rw [hdeclared, hdeclared', ← hname]
  rfl

end Runs

/-- What two runs have in common whose tables hold the same rules, `t` in its own order and the
other in the order of `tags`. -/
structure IsOrderFree (parser : ScriptParser) (t : RuleTable) (tags : List TagRule) (c : Settings)
    (overrides : Overrides) : Prop where
  /-- Both succeed, or both fail in the same way. -/
  kind : (firstFailure (generateWith parser t c overrides)).map Failure.kind =
    (firstFailure (generateWith parser (t.withTags tags) c overrides)).map Failure.kind
  /-- Each rule has one component in both modules, at the place of the rule. -/
  components : ∀ m n, generateWith parser t c overrides = .ok m →
    generateWith parser (t.withTags tags) c overrides = .ok n →
    ∃ component : TagRule → Component, m.components = (allowedRules t.tags).map component ∧
      n.components = (allowedRules tags).map component
  components_perm : ∀ m n, generateWith parser t c overrides = .ok m →
    generateWith parser (t.withTags tags) c overrides = .ok n → m.components.Perm n.components
  /-- The dispatchers are for the same tag names, and for each name they match. -/
  tagNames : ∀ m n, generateWith parser t c overrides = .ok m →
    generateWith parser (t.withTags tags) c overrides = .ok n →
    (m.dispatchers.map (·.tagName)).Perm (n.dispatchers.map (·.tagName))
  dispatchers : ∀ m n, generateWith parser t c overrides = .ok m →
    generateWith parser (t.withTags tags) c overrides = .ok n →
    ∀ d ∈ m.dispatchers, ∀ e ∈ n.dispatchers, d.tagName = e.tagName → d.Matches e

theorem isOrderFree_generateWith {parser : ScriptParser} {t : RuleTable} {tags : List TagRule}
    {c : Settings} (hverify : c.verify = false) (h : t.tags.Perm tags) (overrides : Overrides) :
    IsOrderFree parser t tags c overrides where
  kind := by
    have hskip : ∀ t : RuleTable, c.verify = true → ∀ m, assemble t c overrides = .ok m →
        (parser m.text).accepts = true := by
      intro _ hon
      rw [hverify] at hon
      cases hon
    rw [(verdict_firstFailure (hskip t)).map_kind,
      (verdict_firstFailure (hskip (t.withTags tags))).map_kind, failureKind?_of_perm t c h]
  components m n hm hn :=
    ⟨t.component overrides, components_eq_map hm, components_withTags_eq_map h hn⟩
  components_perm m n hm hn := by
    rw [components_eq_map hm, components_withTags_eq_map h hn]
    exact (allowedRules_perm h).map _
  tagNames m n hm hn := tagNames_perm h hm hn
  dispatchers m n hm hn _ hd _ he hname := matches_of_mem_dispatchers h hm hn hd he hname

/-- The rules of `sampleTable` backwards, of which two share a tag name. -/
theorem isOrderFree_sampleTable :
    sampleTable.tags.Perm sampleTable.tags.reverse ∧
      generateWith abortingParser sampleTable { verify := false } Settings.default.registry =
        .ok sampleModule ∧
      IsOrderFree abortingParser sampleTable sampleTable.tags.reverse { verify := false }
        Settings.default.registry :=
  ⟨(List.reverse_perm _).symm, generateWith_sampleTable _,
    isOrderFree_generateWith rfl (List.reverse_perm _).symm Settings.default.registry⟩

end AmpComponents
