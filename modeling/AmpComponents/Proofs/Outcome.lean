/-
Which runs fail, and how.

A run can fail in its settings, on a rule that repeats an earlier one, or on a reference that
dangles.  `Verdict t c` says which it is, of the table and the settings alone, by three tests of
which each is made only when those before it are passed.  No test looks at an override, and the
tests of the table look at rules that are not blocked only.

The stages of a run stop at their first failure.  `firstFailure` of a stage is therefore the first
failure among its items (`firstFailure_mapM`), which turns the stage for the components into a
search through the references in the order of the rules (`firstFailure_synthesizeComponents`).
The pass over the rules has its own invariant, and `Retention` says where it stops.
-/
import AmpComponents.Proofs.Generation

namespace AmpComponents

/-! ## What is tested -/

/-- Whether the rule at place `j` is one that an earlier rule is not told apart from. -/
def RepeatsAt (rules : List TagRule) (j : Nat) (rule : TagRule) : Prop :=
  rules[j]? = some rule ∧ isBlocked rule.tagName = false ∧
    ∃ i < j, ∃ earlier, rules[i]? = some earlier ∧
      earlier.tagName = rule.tagName ∧ earlier.discriminator = rule.discriminator

namespace RuleTable

/-- The references of the rules that are not blocked, in the order of the rules. -/
def references (t : RuleTable) : List (TagRule × Int64) :=
  (allowedRules t.tags).flatMap fun rule => rule.attrs.map fun r => (rule, r)

/-- Whether a reference points behind the end of its table: a positive one into `attrs`, any other
by its magnitude into `internedStrings`. -/
def dangles (t : RuleTable) (r : Int64) : Bool :=
  if 0 < r.toInt then t.attrs.length ≤ r.toInt.natAbs
  else t.internedStrings.length ≤ r.toInt.natAbs

/-- What is reported of a reference that dangles. -/
def danglingFailure (t : RuleTable) (tagName : String) (r : Int64) : Failure :=
  if 0 < r.toInt then .danglingAttribute tagName .attrs r.toInt.natAbs t.attrs.length
  else .danglingAttribute tagName .internedStrings r.toInt.natAbs t.internedStrings.length

end RuleTable

/-- The failure of a run, or that there is none. -/
inductive Verdict (t : RuleTable) (c : Settings) : Option Failure → Prop where
  | settings {problem : SettingsProblem} (h : c.check = .error problem) :
    Verdict t c (some (.settings problem))
  | duplicateVariant {j : Nat} {rule : TagRule} (hcheck : c.check = .ok ())
    (h : RepeatsAt t.tags j rule) (hfirst : ∀ i < j, ∀ other, ¬RepeatsAt t.tags i other) :
    Verdict t c (some (.duplicateVariant rule.tagName rule.discriminator))
  | danglingAttribute {rule : TagRule} {r : Int64} (hcheck : c.check = .ok ())
    (hapart : ∀ j other, ¬RepeatsAt t.tags j other)
    (h : t.references.find? (fun p => t.dangles p.2) = some (rule, r)) :
    Verdict t c (some (t.danglingFailure rule.tagName r))
  | success (hcheck : c.check = .ok ()) (hapart : ∀ j other, ¬RepeatsAt t.tags j other)
    (h : ∀ p ∈ t.references, t.dangles p.2 = false) : Verdict t c none

/-! ## First failures -/

/-- The failure that a result is. -/
def firstFailure {α : Type} : Except Failure α → Option Failure
  | .error failure => some failure
  | .ok _ => none

section FirstFailure

variable {α β : Type}

theorem firstFailure_eq_some_iff {x : Except Failure α} {failure : Failure} :
    firstFailure x = some failure ↔ x = .error failure := by
  cases x <;> simp [firstFailure]

theorem firstFailure_eq_none_iff {x : Except Failure α} :
    firstFailure x = none ↔ ∃ a, x = .ok a := by
  cases x <;> simp [firstFailure]

theorem firstFailure_map (x : Except Failure α) (f : α → β) :
    firstFailure (x.map f) = firstFailure x := by
  cases x <;> rfl

/-- Of a list of results the first failure counts. -/
theorem firstFailure_mapM (f : α → Except Failure β) (as : List α) :
    firstFailure (as.mapM f) = as.findSome? fun a => firstFailure (f a) := by
  induction as with
  | nil => rfl
  | cons a as ih =>
    rw [List.mapM_cons, List.findSome?_cons, ← ih]
    cases f a with
    | error failure => rfl
    | ok b => cases as.mapM f <;> rfl

end FirstFailure

/-! ## References -/

namespace RuleTable

variable (t : RuleTable)

theorem firstFailure_resolve (tagName : String) (r : Int64) :
    firstFailure (t.resolve tagName r) =
      if t.dangles r then some (t.danglingFailure tagName r) else none := by
  have hdangles : t.dangles r =
      decide (t.size (AttributeRef.ofInt64 r).table ≤ (AttributeRef.ofInt64 r).index) := by
    unfold dangles AttributeRef.ofInt64
    split <;> rfl
  have hfailure : t.danglingFailure tagName r = .danglingAttribute tagName
      (AttributeRef.ofInt64 r).table (AttributeRef.ofInt64 r).index
      (t.size (AttributeRef.ofInt64 r).table) := by
    unfold danglingFailure AttributeRef.ofInt64
    split <;> rfl
  have hfound := attributeAt?_isSome_iff (t := t) (r := AttributeRef.ofInt64 r)
  rw [hdangles, hfailure, resolve]
  cases hattribute : t.attributeAt? (AttributeRef.ofInt64 r) with
  | none =>
    rw [hattribute] at hfound
    have hbehind : ¬_ := fun h => Bool.false_ne_true (hfound.2 h)
    rw [if_pos (decide_eq_true (Nat.not_lt.1 hbehind))]
    rfl
  | some a =>
    rw [hattribute] at hfound
    have hwithin := hfound.1 rfl
    rw [if_neg (by simpa using hwithin)]
    rfl

theorem firstFailure_props (rule : TagRule) :
    firstFailure (t.props rule) =
      (rule.attrs.find? t.dangles).map (t.danglingFailure rule.tagName) := by
  have hattributes : firstFailure (t.props rule) =
      firstFailure (rule.attrs.mapM (t.resolve rule.tagName)) := by
    unfold props
    cases rule.attrs.mapM (t.resolve rule.tagName) <;> rfl
  rw [hattributes, firstFailure_mapM]
  induction rule.attrs with
  | nil => rfl
  | cons r rest ih =>
    rw [List.findSome?_cons, firstFailure_resolve]
    by_cases hr : t.dangles r = true
    · rw [if_pos hr, List.find?_cons_of_pos hr]
      rfl
    · rw [if_neg hr, List.find?_cons_of_neg hr]
      exact ih

/-- The first reference that dangles ends the stage for the components. -/
theorem firstFailure_synthesizeComponents {t : RuleTable} {r : Retention}
    (h : Retention.Tracks t.tags t.tags r) (overrides : Overrides) :
    firstFailure (synthesizeComponents t overrides r.tags) =
      (t.references.find? fun p => t.dangles p.2).map fun p =>
        t.danglingFailure p.1.tagName p.2 := by
  rw [synthesizeComponents_of_tracks h, firstFailure_mapM, references, List.find?_flatMap,
    List.map_findSome?]
  simp only [firstFailure_map, firstFailure_props, List.find?_map, Function.comp_def,
    Option.map_map]

end RuleTable

/-! ## Repetitions -/

theorem not_repeatsAt {rules : List TagRule} (h : rules.Pairwise TagRule.TellsApart) (j : Nat)
    (rule : TagRule) : ¬RepeatsAt rules j rule := by
  rintro ⟨hrule, hallowed, i, hi, earlier, hearlier, hname, hdiscriminator⟩
  obtain ⟨hj, rfl⟩ := List.getElem?_eq_some_iff.1 hrule
  obtain ⟨hi', rfl⟩ := List.getElem?_eq_some_iff.1 hearlier
  exact List.pairwise_iff_getElem.1 h i j hi' hj hi hallowed hname hdiscriminator

/-- What follows a place does not matter to what is repeated at it. -/
theorem repeatsAt_append {before after : List TagRule} {i : Nat} {rule : TagRule}
    (hi : i < before.length) (h : RepeatsAt (before ++ after) i rule) :
    RepeatsAt before i rule := by
  obtain ⟨hrule, hallowed, k, hk, earlier, hearlier, hsame⟩ := h
  rw [List.getElem?_append_left hi] at hrule
  rw [List.getElem?_append_left (Nat.lt_trans hk hi)] at hearlier
  exact ⟨hrule, hallowed, k, hk, earlier, hearlier, hsame⟩

theorem exists_repeatsAt_of_ofRules_eq_error {rules : List TagRule} {failure : Failure}
    (h : Retention.ofRules rules = .error failure) :
    ∃ j rule, RepeatsAt rules j rule ∧ (∀ i < j, ∀ other, ¬RepeatsAt rules i other) ∧
      failure = .duplicateVariant rule.tagName rule.discriminator := by
  obtain ⟨before, rule, after, rfl, hbefore, hallowed, ⟨earlier, hearlier, hsame⟩, hfailure⟩ :=
    Retention.exists_rule_of_ofRules_eq_error h
  obtain ⟨i, hi, rfl⟩ := List.getElem_of_mem hearlier
  refine ⟨before.length, rule, ⟨by simp, hallowed, i, hi, _, ?_, hsame⟩, ?_, hfailure⟩
  · rw [List.getElem?_append_left hi, List.getElem?_eq_getElem hi]
  · exact fun k hk other hrepeats => not_repeatsAt hbefore k other (repeatsAt_append hk hrepeats)

/-! ## Runs -/

section Run

variable {parser : ScriptParser} {t : RuleTable} {c : Settings} {overrides : Overrides}

theorem firstFailure_assemble :
    firstFailure (assemble t c overrides) =
      match Retention.ofRules t.tags with
      | .error failure => some failure
      | .ok r => firstFailure (synthesizeComponents t overrides r.tags) := by
  unfold assemble
  cases hpass : Retention.ofRules t.tags with
  | error failure => rfl
  | ok r =>
    show firstFailure (synthesizeComponents t overrides r.tags >>= _) =
      firstFailure (synthesizeComponents t overrides r.tags)
    cases synthesizeComponents t overrides r.tags <;> rfl

/-- A module whose check is off or passed does not fail behind its stages. -/
theorem firstFailure_generateWith (hcheck : c.check = .ok ())
    (haccepts : c.verify = true → ∀ m, assemble t c overrides = .ok m →
      (parser m.text).accepts = true) :
    firstFailure (generateWith parser t c overrides) = firstFailure (assemble t c overrides) := by
  cases hassemble : assemble t c overrides with
  | error failure =>
    rw [generateWith, hcheck, hassemble]
    rfl
  | ok m =>
    have hrun : generateWith parser t c overrides = .ok m :=
      generateWith_eq_ok_iff.2 ⟨hcheck, fun hverify => haccepts hverify m hassemble, hassemble⟩
    rw [hrun]

theorem verdict_firstFailure
    (haccepts : c.verify = true → ∀ m, assemble t c overrides = .ok m →
      (parser m.text).accepts = true) :
    Verdict t c (firstFailure (generateWith parser t c overrides)) := by
  cases hcheck : c.check with
  | error problem =>
    have hfail : generateWith parser t c overrides = .error (.settings problem) := by
      rw [generateWith, hcheck]
    rw [hfail]
    exact .settings hcheck
  | ok _ =>
    rw [firstFailure_generateWith hcheck haccepts, firstFailure_assemble]
    cases hpass : Retention.ofRules t.tags with
    | error failure =>
      obtain ⟨j, rule, hrepeats, hfirst, rfl⟩ := exists_repeatsAt_of_ofRules_eq_error hpass
      exact .duplicateVariant hcheck hrepeats hfirst
    | ok r =>
      have htracks := Retention.tracks_of_ofRules hpass
      have hapart := not_repeatsAt
        (Retention.pairwise_tellsApart htracks (List.Sublist.refl t.tags))
      show Verdict t c (firstFailure (synthesizeComponents t overrides r.tags))
      rw [RuleTable.firstFailure_synthesizeComponents htracks]
      cases hfind : t.references.find? fun p => t.dangles p.2 with
      | some p => exact .danglingAttribute hcheck hapart hfind
      | none => exact .success hcheck hapart (by simpa using hfind)

theorem check_ne_error (hcheck : c.check = .ok ()) {problem : SettingsProblem} :
    c.check ≠ .error problem := by
  rw [hcheck]
  exact nofun

/-- Of two first places neither is before the other. -/
theorem repeatsAt_unique {rules : List TagRule} {i j : Nat} {a b : TagRule}
    (ha : RepeatsAt rules i a) (hb : RepeatsAt rules j b)
    (hi : ∀ k < i, ∀ other, ¬RepeatsAt rules k other)
    (hj : ∀ k < j, ∀ other, ¬RepeatsAt rules k other) : a = b := by
  have hle : j ≤ i := Nat.not_lt.1 fun hlt => hj i hlt a ha
  have hge : i ≤ j := Nat.not_lt.1 fun hlt => hi j hlt b hb
  obtain rfl : i = j := Nat.le_antisymm hge hle
  exact Option.some.inj (ha.1.symm.trans hb.1)

/-- The tests leave no choice. -/
theorem Verdict.unique {f g : Option Failure} (hf : Verdict t c f) (hg : Verdict t c g) :
    f = g := by
  cases hf with
  | settings hf =>
    cases hg with
    | settings hg => rw [Except.error.inj (hf.symm.trans hg)]
    | duplicateVariant hcheck => exact absurd hf (check_ne_error hcheck)
    | danglingAttribute hcheck => exact absurd hf (check_ne_error hcheck)
    | success hcheck => exact absurd hf (check_ne_error hcheck)
  | duplicateVariant hcheck hf hfirst =>
    cases hg with
    | settings hg => exact absurd hg (check_ne_error hcheck)
    | duplicateVariant _ hg hfirst' => rw [repeatsAt_unique hf hg hfirst hfirst']
    | danglingAttribute _ hapart => exact absurd hf (hapart _ _)
    | success _ hapart => exact absurd hf (hapart _ _)
  | danglingAttribute hcheck hapart hf =>
    cases hg with
    | settings hg => exact absurd hg (check_ne_error hcheck)
    | duplicateVariant _ hg => exact absurd hg (hapart _ _)
    | danglingAttribute _ _ hg =>
      obtain ⟨rfl, rfl⟩ := Prod.mk.inj (Option.some.inj (hf.symm.trans hg))
      rfl
    | success _ _ hg =>
      have hdangles := List.find?_some hf
      rw [hg _ (List.mem_of_find?_eq_some hf)] at hdangles
      cases hdangles
  | success hcheck hapart hf =>
    cases hg with
    | settings hg => exact absurd hg (check_ne_error hcheck)
    | duplicateVariant _ hg => exact absurd hg (hapart _ _)
    | danglingAttribute _ _ hg =>
      have hdangles := List.find?_some hg
      rw [hf _ (List.mem_of_find?_eq_some hg)] at hdangles
      cases hdangles
    | success => rfl

end Run

/-- The tag that a failure names. -/
def Failure.tag? : Failure → Option String
  | .duplicateVariant tag _ => some tag
  | .danglingAttribute tag .. => some tag
  | _ => none

theorem RuleTable.isBlocked_of_mem_references {t : RuleTable} {p : TagRule × Int64}
    (h : p ∈ t.references) : isBlocked p.1.tagName = false := by
  obtain ⟨rule, hrule, hp⟩ := List.mem_flatMap.1 h
  obtain ⟨r, -, rfl⟩ := List.mem_map.1 hp
  exact (mem_allowedRules_iff.1 hrule).2

theorem Verdict.isBlocked_of_tag? {t : RuleTable} {c : Settings} {failure : Failure}
    (h : Verdict t c (some failure)) {tag : String} (htag : failure.tag? = some tag) :
    isBlocked tag = false := by
  cases h with
  | settings => cases htag
  | duplicateVariant _ h =>
    cases htag
    exact h.2.1
  | @danglingAttribute rule r _ _ h =>
    have hallowed := t.isBlocked_of_mem_references (List.mem_of_find?_eq_some h)
    have hname : (t.danglingFailure rule.tagName r).tag? = some rule.tagName := by
      unfold RuleTable.danglingFailure
      split <;> rfl
    rwa [← Option.some.inj (hname.symm.trans htag)]

/-- A run ends as the tests say, whatever its overrides are, and a failure that names a tag names
one that is not blocked. -/
structure IsDecided (parser : ScriptParser) (t : RuleTable) (c : Settings) (overrides : Overrides) :
    Prop where
  firstFailure_eq_iff : ∀ failure : Option Failure,
    firstFailure (generateWith parser t c overrides) = failure ↔ Verdict t c failure
  allowed : ∀ failure tag, generateWith parser t c overrides = .error failure →
    failure.tag? = some tag → isBlocked tag = false

theorem isDecided_generateWith {parser : ScriptParser} {t : RuleTable} {c : Settings}
    {overrides : Overrides}
    (haccepts : c.verify = true → ∀ m, assemble t c overrides = .ok m →
      (parser m.text).accepts = true) :
    IsDecided parser t c overrides := by
  have hverdict := verdict_firstFailure haccepts
  refine ⟨fun failure => ⟨?_, fun h => hverdict.unique h⟩, fun failure tag hfail htag => ?_⟩
  · rintro rfl
    exact hverdict
  · rw [hfail] at hverdict
    exact hverdict.isBlocked_of_tag? htag

/-- A table with every defect but a repetition: blocked rules that repeat each other and dangle,
and a component written by hand that dangles before an element does. -/
def danglingTable : RuleTable where
  tags :=
    [⟨"O:P", none, none, [9], none⟩,
     ⟨"O:P", none, none, [-9], none⟩,
     ⟨"amp-img", none, none, [1, 0], none⟩,
     ⟨"amp-state", none, none, [1, -5, 8], none⟩,
     ⟨"amp-ad", none, none, [7], none⟩]
  attrs := [⟨none, none, none⟩, ⟨some "src", some true, none⟩]
  internedStrings := [.text "layout"]

theorem isDecided_danglingTable :
    (Settings.default.verify = true → ∀ m,
      assemble danglingTable Settings.default Settings.default.registry = .ok m →
        (acceptingParser m.text).accepts = true) ∧
      IsDecided acceptingParser danglingTable Settings.default Settings.default.registry ∧
      firstFailure (generateWith acceptingParser danglingTable Settings.default
        Settings.default.registry) =
          some (.danglingAttribute "amp-state" .internedStrings 5 1) := by
  have haccepts : Settings.default.verify = true → ∀ m,
      assemble danglingTable Settings.default Settings.default.registry = .ok m →
        (acceptingParser m.text).accepts = true := fun _ _ _ => rfl
  exact ⟨haccepts, isDecided_generateWith haccepts, by decide +kernel⟩

end AmpComponents
