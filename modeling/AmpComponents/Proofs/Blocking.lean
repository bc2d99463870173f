/-
Blocked rules do not interfere.

A rule for a blocked tag name is counted with the others, dropped by the pass over the rules, and
looked for once more in both stages behind the pass.  None of this leaves a trace: the theorem
this file exists for, `ignoresBlocked_generateWith`, says that a run gives the same result, module
or failure, on any two tables that have the same attributes and the same rules in the same order
once the blocked ones are taken out (`allowedRules`).

The pass is where the work is.  A blocked rule is counted under its own tag name only, so the
counts of the other names stay (`occurrences_allowedRules`) and with them what the pass does with
their rules; on the blocked rule itself the pass does nothing (`step_of_isBlocked`).  Behind the
pass nothing looks at the rules of the table again.
-/
import AmpComponents.Proofs.Generation

namespace AmpComponents

/-! ## The pass -/

theorem occurrences_allowedRules {tag : String} (h : isBlocked tag = false)
    (rules : List TagRule) : occurrences tag (allowedRules rules) = occurrences tag rules := by
  rw [occurrences, occurrences, allowedRules, List.countP_filter]
  apply List.countP_congr
  intro rule _
  by_cases hname : rule.tagName = tag
  · simp [hname, h]
  · simp [hname]

namespace Retention

theorem step_of_isBlocked (counts : Tally) (acc : Retention) {rule : TagRule}
    (h : isBlocked rule.tagName = true) : step counts acc rule = .ok acc := by
  rw [step, if_pos h]

/-- A step reads of the table only how often the tag name of its rule occurs. -/
theorem step_allowedRules (all : List TagRule) (acc : Retention) (rule : TagRule) :
    step (.ofRules (allowedRules all)) acc rule = step (.ofRules all) acc rule := by
  by_cases hblocked : isBlocked rule.tagName = true
  · rw [step_of_isBlocked _ acc hblocked, step_of_isBlocked _ acc hblocked]
  · rw [step, step, Tally.count_ofRules, Tally.count_ofRules,
      occurrences_allowedRules (Bool.eq_false_iff.2 hblocked)]

theorem foldlM_step_allowedRules (counts : Tally) (rules : List TagRule) (acc : Retention) :
    (allowedRules rules).foldlM (step counts) acc = rules.foldlM (step counts) acc := by
  induction rules generalizing acc with
  | nil => rfl
  | cons rule rules ih =>
    by_cases hblocked : isBlocked rule.tagName = true
    · have hskip : allowedRules (rule :: rules) = allowedRules rules :=
        List.filter_cons_of_neg (by simp [hblocked])
      rw [hskip, ih, List.foldlM_cons, step_of_isBlocked counts acc hblocked]
      rfl
    · have hkeep : allowedRules (rule :: rules) = rule :: allowedRules rules :=
        List.filter_cons_of_pos (by simp [hblocked])
      rw [hkeep, List.foldlM_cons, List.foldlM_cons]
      cases step counts acc rule with
      | error failure => rfl
      | ok next => exact ih next

theorem ofRules_allowedRules (rules : List TagRule) :
    ofRules (allowedRules rules) = ofRules rules := by
  have hstep : step (.ofRules (allowedRules rules)) = step (.ofRules rules) :=
    funext fun acc => funext fun rule => step_allowedRules rules acc rule
  rw [ofRules, hstep, foldlM_step_allowedRules, ofRules]

end Retention

/-! ## Runs -/

/-- The stage for the components looks up attributes and has its rules from the pass. -/
theorem synthesizeComponents_withTags (t : RuleTable) (tags : List TagRule)
    (overrides : Overrides) (retained : List RetainedTag) :
    synthesizeComponents (t.withTags tags) overrides retained =
      synthesizeComponents t overrides retained := rfl

theorem assemble_withTags (t : RuleTable) (tags : List TagRule) (c : Settings)
    (overrides : Overrides) (h : allowedRules tags = allowedRules t.tags) :
    assemble (t.withTags tags) c overrides = assemble t c overrides := by
  have hpass : Retention.ofRules tags = Retention.ofRules t.tags := by
    rw [← Retention.ofRules_allowedRules tags, h, Retention.ofRules_allowedRules]
  unfold assemble
  simp only [synthesizeComponents_withTags]
  show (Retention.ofRules tags >>= _) = _
  rw [hpass]

theorem generateWith_withTags (parser : ScriptParser) (t : RuleTable) (tags : List TagRule)
    (c : Settings) (overrides : Overrides) (h : allowedRules tags = allowedRules t.tags) :
    generateWith parser (t.withTags tags) c overrides = generateWith parser t c overrides := by
  rw [generateWith, generateWith, assemble_withTags t tags c overrides h]

theorem allowedRules_idem (rules : List TagRule) :
    allowedRules (allowedRules rules) = allowedRules rules := by
  simp [allowedRules]

/-- A run does not tell whether blocked rules are in the table, whatever its settings are and
whichever parser looks at the module. -/
structure IgnoresBlocked (parser : ScriptParser) (t : RuleTable) (c : Settings)
    (overrides : Overrides) : Prop where
  /-- They may all be taken out. -/
  removed : generateWith parser (t.withTags (allowedRules t.tags)) c overrides =
    generateWith parser t c overrides
  /-- They may stand anywhere between the others, however many and with whatever in them. -/
  inserted : ∀ tags, allowedRules tags = allowedRules t.tags →
    generateWith parser (t.withTags tags) c overrides = generateWith parser t c overrides

theorem ignoresBlocked_generateWith (parser : ScriptParser) (t : RuleTable) (c : Settings)
    (overrides : Overrides) : IgnoresBlocked parser t c overrides where
  removed := generateWith_withTags parser t _ c overrides (allowedRules_idem t.tags)
  inserted tags h := generateWith_withTags parser t tags c overrides h

/-- Blocked rules in front of, between and behind those of `sampleTable`: they repeat each other and
refer to attributes that are not there. -/
def crowdedTags : List TagRule :=
  [⟨"$REFERENCE_POINT", some "a", none, [99], none⟩] ++ sampleTable.tags.take 2 ++
    [⟨"O:P", none, none, [-99], none⟩, .named "!DOCTYPE"] ++ sampleTable.tags.drop 2 ++
    [⟨"$REFERENCE_POINT", some "a", none, [99], none⟩]

/-- The parser has a look at the module of both tables, and its complaints are the same. -/
theorem ignoresBlocked_crowdedTags :
    allowedRules crowdedTags = allowedRules sampleTable.tags ∧
      generateWith acceptingParser (sampleTable.withTags crowdedTags) .default
        Settings.default.registry = .ok sampleModule ∧
      generateWith abortingParser (sampleTable.withTags crowdedTags) .default
        Settings.default.registry = .error (.unreadableScript ["parser aborted"]) := by
  have hallowed : allowedRules crowdedTags = allowedRules sampleTable.tags := by decide +kernel
  refine ⟨hallowed, ?_, ?_⟩
  · rw [(ignoresBlocked_generateWith acceptingParser sampleTable .default
      Settings.default.registry).inserted crowdedTags hallowed]
    exact generateWith_eq_ok_iff.2 ⟨by decide +kernel, fun _ => rfl, assemble_sampleTable⟩
  · rw [(ignoresBlocked_generateWith abortingParser sampleTable .default
      Settings.default.registry).inserted crowdedTags hallowed]
    decide +kernel

end AmpComponents
