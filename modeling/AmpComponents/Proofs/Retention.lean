/-
What the pass over the rules retains.

`Retention.ofRules` folds over the rules and fills two things on the way: the list of retained
tags and the registry of shared tag names.  `Tracks all done acc` says what both hold once the
rules `done` are behind the pass, in terms of `done` alone:

  the retained tags are the rules that are not blocked, in their order;
  the registered names are the shared names among them, in the order of first occurrence;
  the variants of a registered name are its rules, in their order.

A tag name is shared when it occurs twice in the whole table `all`, which is why the invariant
carries both lists.  `step_tracks` takes one rule, and `tracks_of_ofRules` is the whole pass.

The invariant also tells why a pass ends early.  The keys of the registry differ, so the rules
behind the pass have different discriminators within each tag name that is not blocked
(`pairwise_tellsApart`), and a step fails only on a rule that breaks this.
-/
import AmpComponents.SharedTags
import AmpComponents.Proofs.FirstOccurrences

namespace AmpComponents

/-! ## What is to be retained -/

/-- Whether a tag name gets a dispatcher: several rules of the table are for it, and it is not
blocked. -/
def isDispatched (all : List TagRule) (tag : String) : Bool :=
  !isBlocked tag && decide (1 < occurrences tag all)

theorem isDispatched_iff {all : List TagRule} {tag : String} :
    isDispatched all tag = true ↔ isBlocked tag = false ∧ 1 < occurrences tag all := by
  simp [isDispatched]

/-- The tag names with a dispatcher among the names of `rules`, each at its first occurrence. -/
def dispatchedNames (all rules : List TagRule) : List String :=
  ((rules.map (·.tagName)).filter (isDispatched all)).eraseDups

theorem mem_dispatchedNames_iff {all rules : List TagRule} {tag : String} :
    tag ∈ dispatchedNames all rules ↔
      (∃ rule ∈ rules, rule.tagName = tag) ∧ isDispatched all tag = true := by
  simp [dispatchedNames]

/-- The rules that are not blocked. -/
def allowedRules (rules : List TagRule) : List TagRule :=
  rules.filter fun rule => !isBlocked rule.tagName

theorem mem_allowedRules_iff {rules : List TagRule} {rule : TagRule} :
    rule ∈ allowedRules rules ↔ rule ∈ rules ∧ isBlocked rule.tagName = false := by
  simp [allowedRules]

/-- The rules for one tag name. -/
def rulesFor (tag : String) (rules : List TagRule) : List TagRule :=
  rules.filter (·.tagName = tag)

theorem mem_rulesFor_iff {tag : String} {rules : List TagRule} {rule : TagRule} :
    rule ∈ rulesFor tag rules ↔ rule ∈ rules ∧ rule.tagName = tag := by
  simp [rulesFor]

/-- The entry of a rule in the registry. -/
def TagRule.variantEntry (rule : TagRule) : String × String :=
  (variantName rule.tagName rule.discriminator, rule.discriminator)

/-- How a rule is retained: renamed when its tag name is shared. -/
def RetainedTag.ofRule (all : List TagRule) (rule : TagRule) : RetainedTag :=
  if 1 < occurrences rule.tagName all then .renamed rule else .unchanged rule

/-! ## One rule further

A rule changes each of the three lists at its end or not at all. -/

section Snoc

variable (all done : List TagRule) (rule : TagRule)

theorem dispatchedNames_concat :
    dispatchedNames all (done ++ [rule]) =
      if isDispatched all rule.tagName then
        if rule.tagName ∈ dispatchedNames all done then dispatchedNames all done
        else dispatchedNames all done ++ [rule.tagName]
      else dispatchedNames all done := by
  by_cases h : isDispatched all rule.tagName
  · simp only [dispatchedNames, List.map_append, List.map_cons, List.map_nil, List.filter_append,
      List.filter_cons_of_pos h, List.filter_nil, eraseDups_concat, List.mem_eraseDups, if_pos h]
  · simp only [dispatchedNames, List.map_append, List.map_cons, List.map_nil, List.filter_append,
      List.filter_cons_of_neg h, List.filter_nil, List.append_nil, if_neg h]

theorem allowedRules_concat_of_blocked (h : isBlocked rule.tagName = true) :
    allowedRules (done ++ [rule]) = allowedRules done := by
  simp [allowedRules, h]

theorem allowedRules_concat (h : isBlocked rule.tagName = false) :
    allowedRules (done ++ [rule]) = allowedRules done ++ [rule] := by
  simp [allowedRules, h]

theorem rulesFor_concat_self : rulesFor rule.tagName (done ++ [rule]) =
    rulesFor rule.tagName done ++ [rule] := by
  simp [rulesFor]

theorem rulesFor_concat_of_ne {tag : String} (h : tag ≠ rule.tagName) :
    rulesFor tag (done ++ [rule]) = rulesFor tag done := by
  simp [rulesFor, h.symm]

end Snoc

namespace Retention

/-! ## The invariant -/

/-- What the pass has gathered when the rules `done` of the table `all` are behind it. -/
structure Tracks (all done : List TagRule) (acc : Retention) : Prop where
  tags : acc.tags = (allowedRules done).map (.ofRule all)
  names : acc.shared.keys = dispatchedNames all done
  variants : ∀ tag, isDispatched all tag = true →
    (SharedTags.variants acc.shared tag).entries = (rulesFor tag done).map TagRule.variantEntry

theorem tracks_empty (all : List TagRule) : Tracks all [] empty :=
  ⟨rfl, rfl, fun _ _ => rfl⟩

/-- Everything a step that succeeds can do. -/
theorem step_cases {all : List TagRule} {acc acc' : Retention} {rule : TagRule}
    (h : step (.ofRules all) acc rule = .ok acc') :
    (isBlocked rule.tagName = true ∧ acc' = acc) ∨
    (isBlocked rule.tagName = false ∧ ¬1 < occurrences rule.tagName all ∧
      acc' = { acc with tags := acc.tags ++ [.unchanged rule] }) ∨
    (isBlocked rule.tagName = false ∧ 1 < occurrences rule.tagName all ∧
      variantName rule.tagName rule.discriminator ∉
        (SharedTags.variants acc.shared rule.tagName).keys ∧
      acc' = ⟨acc.tags ++ [.renamed rule],
        SharedTags.register acc.shared rule.tagName
          (variantName rule.tagName rule.discriminator) rule.discriminator⟩) := by
  unfold step at h
  rw [Tally.count_ofRules] at h
  split at h
  · next hblocked =>
    cases h
    exact .inl ⟨hblocked, rfl⟩
  · next hallowed =>
    have hallowed := Bool.eq_false_iff.2 hallowed
    split at h
    · next hfew =>
      cases h
      exact .inr (.inl ⟨hallowed, by omega, rfl⟩)
    · next hmany =>
      simp only [OrderedMap.contains_iff] at h
      split at h
      · cases h
      · next hnew =>
        cases h
        exact .inr (.inr ⟨hallowed, by omega, hnew, rfl⟩)

theorem tracks_skip {all done : List TagRule} {acc : Retention} {rule : TagRule}
    (h : Tracks all done acc) (hblocked : isBlocked rule.tagName = true) :
    Tracks all (done ++ [rule]) acc := by
  have hnot : ¬isDispatched all rule.tagName = true := by simp [isDispatched, hblocked]
  refine ⟨?_, ?_, fun tag htag => ?_⟩
  · rw [h.tags, allowedRules_concat_of_blocked _ _ hblocked]
  · rw [h.names, dispatchedNames_concat, if_neg hnot]
  · rw [h.variants tag htag, rulesFor_concat_of_ne]
    exact fun e => hnot (e ▸ htag)

theorem tracks_unchanged {all done : List TagRule} {acc : Retention} {rule : TagRule}
    (h : Tracks all done acc) (hallowed : isBlocked rule.tagName = false)
    (hfew : ¬1 < occurrences rule.tagName all) :
    Tracks all (done ++ [rule]) { acc with tags := acc.tags ++ [.unchanged rule] } := by
  have hnot : ¬isDispatched all rule.tagName = true := by simp [isDispatched, hfew]
  refine ⟨?_, ?_, fun tag htag => ?_⟩
  · rw [h.tags, allowedRules_concat _ _ hallowed, List.map_append, List.map_singleton,
      RetainedTag.ofRule, if_neg hfew]
  · rw [h.names, dispatchedNames_concat, if_neg hnot]
  · rw [h.variants tag htag, rulesFor_concat_of_ne]
    exact fun e => hnot (e ▸ htag)

theorem tracks_renamed {all done : List TagRule} {acc : Retention} {rule : TagRule}
    (h : Tracks all done acc) (hallowed : isBlocked rule.tagName = false)
    (hmany : 1 < occurrences rule.tagName all)
    (hnew : variantName rule.tagName rule.discriminator ∉
      (SharedTags.variants acc.shared rule.tagName).keys) :
    Tracks all (done ++ [rule]) ⟨acc.tags ++ [.renamed rule],
      SharedTags.register acc.shared rule.tagName
        (variantName rule.tagName rule.discriminator) rule.discriminator⟩ := by
  have hshared : isDispatched all rule.tagName = true := isDispatched_iff.2 ⟨hallowed, hmany⟩
  refine ⟨?_, ?_, fun tag htag => ?_⟩
  · rw [h.tags, allowedRules_concat _ _ hallowed, List.map_append, List.map_singleton,
      RetainedTag.ofRule, if_pos hmany]
  · rw [dispatchedNames_concat, if_pos hshared, ← h.names]
    exact OrderedMap.keys_insert ..
  · by_cases hsame : tag = rule.tagName
    · subst hsame
      rw [SharedTags.variants_register_self, OrderedMap.entries_insert_of_not_mem hnew,
        h.variants _ htag, rulesFor_concat_self, List.map_append, List.map_singleton]
      rfl
    · rw [SharedTags.variants_register_of_ne hsame, h.variants tag htag,
        rulesFor_concat_of_ne _ _ hsame]

theorem step_tracks {all done : List TagRule} {acc acc' : Retention} {rule : TagRule}
    (h : Tracks all done acc) (hstep : step (.ofRules all) acc rule = .ok acc') :
    Tracks all (done ++ [rule]) acc' := by
  rcases step_cases hstep with ⟨hblocked, rfl⟩ | ⟨hallowed, hfew, rfl⟩ |
    ⟨hallowed, hmany, hnew, rfl⟩
  · exact tracks_skip h hblocked
  · exact tracks_unchanged h hallowed hfew
  · exact tracks_renamed h hallowed hmany hnew

/-! ## The whole pass -/

theorem tracks_of_foldlM {all rest : List TagRule} :
    ∀ {done : List TagRule} {acc result : Retention}, Tracks all done acc →
      rest.foldlM (step (.ofRules all)) acc = .ok result → Tracks all (done ++ rest) result := by
  induction rest with
  | nil =>
    intro done acc result h hrun
    cases hrun
    rwa [List.append_nil]
  | cons rule rest ih =>
    intro done acc result h hrun
    rw [List.foldlM_cons] at hrun
    cases hstep : step (.ofRules all) acc rule with
    | error failure => rw [hstep] at hrun; cases hrun
    | ok next =>
      rw [hstep] at hrun
      have htail := ih (step_tracks h hstep) hrun
      rwa [List.append_assoc, List.singleton_append] at htail

/-- What the pass has gathered when it ends. -/
theorem tracks_of_ofRules {rules : List TagRule} {result : Retention}
    (h : ofRules rules = .ok result) : Tracks rules rules result := by
  have hrun := tracks_of_foldlM (tracks_empty rules) h
  rwa [List.nil_append] at hrun

/-- The registry holds a name once, so each is listed once. -/
theorem nodup_dispatchedNames {all done : List TagRule} {acc : Retention}
    (h : Tracks all done acc) : (dispatchedNames all done).Nodup :=
  h.names ▸ acc.shared.nodup_keys

/-! ## Rules that are told apart -/

/-- The rules for a shared tag name have different discriminators. -/
theorem nodup_discriminators {all done : List TagRule} {acc : Retention}
    (h : Tracks all done acc) {tag : String} (htag : isDispatched all tag = true) :
    ((rulesFor tag done).map (·.discriminator)).Nodup := by
  have hkeys := (SharedTags.variants acc.shared tag).nodup_keys
  rw [h.variants tag htag, List.map_map] at hkeys
  have hnames : ((rulesFor tag done).map (·.discriminator)).map (variantName tag) =
      (rulesFor tag done).map ((·.1) ∘ TagRule.variantEntry) := by
    rw [List.map_map]
    apply List.map_congr_left
    intro rule hrule
    rw [← (mem_rulesFor_iff.1 hrule).2]
    rfl
  rw [← hnames] at hkeys
  exact hkeys.of_map _

end Retention

/-- Whether a rule is told apart from an earlier one: by its tag name or, when that is the same and
not blocked, by its discriminator. -/
def TagRule.TellsApart (earlier rule : TagRule) : Prop :=
  isBlocked rule.tagName = false → earlier.tagName = rule.tagName →
    earlier.discriminator ≠ rule.discriminator

theorem occurrences_of_pair {a b : TagRule} {all : List TagRule} (h : [a, b].Sublist all)
    (hname : a.tagName = b.tagName) : 1 < occurrences b.tagName all := by
  have hpair : occurrences b.tagName [a, b] = 2 := by simp [occurrences, hname]
  have hle : occurrences b.tagName [a, b] ≤ occurrences b.tagName all := h.countP_le
  omega

namespace Retention

/-- The rules behind a pass are told apart. -/
theorem pairwise_tellsApart {all done : List TagRule} {acc : Retention} (h : Tracks all done acc)
    (hdone : done.Sublist all) : done.Pairwise TagRule.TellsApart := by
  rw [List.pairwise_iff_forall_sublist]
  intro a b hpair hallowed hname
  have htag : isDispatched all b.tagName = true :=
    isDispatched_iff.2 ⟨hallowed, occurrences_of_pair (hpair.trans hdone) hname⟩
  have hrules : [a, b].Sublist (rulesFor b.tagName done) := by
    have hfilter := hpair.filter (·.tagName = b.tagName)
    rwa [List.filter_cons_of_pos (by simpa using hname), List.filter_cons_of_pos (by simp),
      List.filter_nil] at hfilter
  have hnodup := (hrules.map (·.discriminator)).nodup (nodup_discriminators h htag)
  simpa using hnodup

/-! ## Passes that fail -/

/-- A step fails only on a rule whose variant is registered. -/
theorem step_eq_error {all : List TagRule} {acc : Retention} {rule : TagRule} {failure : Failure}
    (h : step (.ofRules all) acc rule = .error failure) :
    isBlocked rule.tagName = false ∧ 1 < occurrences rule.tagName all ∧
      variantName rule.tagName rule.discriminator ∈
        (SharedTags.variants acc.shared rule.tagName).keys ∧
      failure = .duplicateVariant rule.tagName rule.discriminator := by
  unfold step at h
  rw [Tally.count_ofRules] at h
  split at h
  · cases h
  · next hallowed =>
    split at h
    · cases h
    · next hmany =>
      simp only [OrderedMap.contains_iff] at h
      split at h
      · next hmem =>
        cases h
        exact ⟨Bool.eq_false_iff.2 hallowed, by omega, hmem, rfl⟩
      · cases h

/-- A pass that fails has gone up to the rule it fails on. -/
theorem exists_step_of_foldlM_eq_error {all rest : List TagRule} {failure : Failure} :
    ∀ {done : List TagRule} {acc : Retention}, Tracks all done acc →
      rest.foldlM (step (.ofRules all)) acc = .error failure →
      ∃ before rule after acc', rest = before ++ rule :: after ∧
        Tracks all (done ++ before) acc' ∧ step (.ofRules all) acc' rule = .error failure := by
  induction rest with
  | nil =>
    intro done acc _ hrun
    cases hrun
  | cons rule rest ih =>
    intro done acc h hrun
    rw [List.foldlM_cons] at hrun
    cases hstep : step (.ofRules all) acc rule with
    | error problem =>
      rw [hstep] at hrun
      cases hrun
      refine ⟨[], rule, rest, acc, rfl, ?_, hstep⟩
      rwa [List.append_nil]
    | ok next =>
      rw [hstep] at hrun
      obtain ⟨before, other, after, acc', rfl, htracks, hfail⟩ := ih (step_tracks h hstep) hrun
      refine ⟨rule :: before, other, after, acc', rfl, ?_, hfail⟩
      rwa [List.append_assoc, List.singleton_append] at htracks

/-- The pass fails on a rule that an earlier one is not told apart from, and the rules before it
are told apart. -/
theorem exists_rule_of_ofRules_eq_error {rules : List TagRule} {failure : Failure}
    (h : ofRules rules = .error failure) :
    ∃ before rule after, rules = before ++ rule :: after ∧
      before.Pairwise TagRule.TellsApart ∧ isBlocked rule.tagName = false ∧
      (∃ earlier ∈ before, earlier.tagName = rule.tagName ∧
        earlier.discriminator = rule.discriminator) ∧
      failure = .duplicateVariant rule.tagName rule.discriminator := by
  obtain ⟨before, rule, after, acc, hsplit, htracks, hstep⟩ :=
    exists_step_of_foldlM_eq_error (tracks_empty rules) h
  rw [List.nil_append] at htracks
  obtain ⟨hallowed, hmany, hkey, hfailure⟩ := step_eq_error hstep
  have hbefore : before.Sublist rules := hsplit ▸ List.sublist_append_left before (rule :: after)
  have htag : isDispatched rules rule.tagName = true := isDispatched_iff.2 ⟨hallowed, hmany⟩
  refine ⟨before, rule, after, hsplit, pairwise_tellsApart htracks hbefore, hallowed, ?_,
    hfailure⟩
  rw [OrderedMap.keys, htracks.variants _ htag, List.map_map] at hkey
  obtain ⟨earlier, hearlier, hsame⟩ := List.mem_map.1 hkey
  obtain ⟨hmem, hname⟩ := mem_rulesFor_iff.1 hearlier
  have hvariant : variantName rule.tagName earlier.discriminator =
      variantName rule.tagName rule.discriminator := hname ▸ hsame
  exact ⟨earlier, hmem, hname, variantName_right_inj.1 hvariant⟩

end Retention
end AmpComponents
