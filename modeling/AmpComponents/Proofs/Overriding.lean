/-
Components written by hand change kinds and nothing else.

The overrides are looked up in the middle of a run, for each rule before its references count.
Still a run under other overrides is the same run with the kinds of its components set anew:

  `generateWith parser t c others = (generateWith parser t c overrides).map (.under others)`

The equation (`generateWith_eq_map`) covers the failures too: an override hides no dangling
reference and comes before no other test.  It needs the check of the module to be off, since a
parser reads local names.  What two runs have in common (`sharesAllButKinds_generateWith`) is read
off from it.
-/
import AmpComponents.Proofs.Outcome

namespace AmpComponents

/-! ## Kinds -/

/-- The component with the kind that it has under these overrides. -/
def Component.under (overrides : Overrides) (k : Component) : Component :=
  { k with kind := .of overrides k.name k.tagName }

def ComponentModule.under (overrides : Overrides) (m : ComponentModule) : ComponentModule :=
  { m with components := m.components.map (·.under overrides) }

theorem ComponentKind.of_eq_handwritten_iff {overrides : Overrides} {name tagName : String}
    {binding : Binding} :
    ComponentKind.of overrides name tagName = .handwritten binding ↔
      overrides.resolve name = some binding := by
  unfold ComponentKind.of
  cases overrides.resolve name <;> simp

/-! ## Stages -/

section Stages

variable (t : RuleTable) (overrides others : Overrides)

theorem Component.ofTag_eq_map (tag : RetainedTag) :
    ofTag t others tag = (ofTag t overrides tag).map (·.under others) := by
  unfold ofTag
  cases t.props tag.rule <;> rfl

theorem mapM_map_result {α β γ ε : Type} (f : α → Except ε β) (g : β → γ) (as : List α) :
    (as.mapM fun a => (f a).map g) = (as.mapM f).map (List.map g) := by
  induction as with
  | nil => rfl
  | cons a as ih =>
    rw [List.mapM_cons, List.mapM_cons, ih]
    cases f a with
    | error failure => rfl
    | ok b => cases as.mapM f <;> rfl

theorem synthesizeComponents_eq_map (tags : List RetainedTag) :
    synthesizeComponents t others tags =
      (synthesizeComponents t overrides tags).map (List.map (·.under others)) := by
  unfold synthesizeComponents
  rw [← mapM_map_result]
  exact congrArg (List.mapM · _) (funext (Component.ofTag_eq_map t overrides others))

theorem assemble_eq_map (c : Settings) :
    assemble t c others = (assemble t c overrides).map (·.under others) := by
  unfold assemble
  cases Retention.ofRules t.tags with
  | error failure => rfl
  | ok r =>
    simp only [bind, Except.bind, synthesizeComponents_eq_map t overrides others r.tags]
    cases synthesizeComponents t overrides r.tags <;> rfl

end Stages

theorem generateWith_eq_map (parser : ScriptParser) (t : RuleTable) {c : Settings}
    (overrides others : Overrides) (hverify : c.verify = false) :
    generateWith parser t c others = (generateWith parser t c overrides).map (·.under others) := by
  have hskip : ∀ m : ComponentModule, m.verify parser c = .ok () := by
    intro m
    rw [ComponentModule.verify, hverify]
    rfl
  unfold generateWith
  rw [assemble_eq_map t overrides others]
  cases c.check with
  | error problem => rfl
  | ok _ =>
    cases assemble t c overrides with
    | error failure => rfl
    | ok m =>
      simp only [Except.map, bind, Except.bind, hskip]
      rfl

/-! ## Two runs -/

/-- Two components, each under its own overrides, that differ in their kinds at most. -/
structure Component.AgreesButKind (overrides others : Overrides) (k l : Component) : Prop where
  name : k.name = l.name
  tagName : k.tagName = l.tagName
  specName : k.specName = l.specName
  propTypes : k.propTypes = l.propTypes
  defaultProps : k.defaultProps = l.defaultProps
  extensions : k.extensions = l.extensions
  kind : overrides.resolve k.name = others.resolve k.name → k.kind = l.kind
  left : ∀ binding, k.kind = .handwritten binding ↔ overrides.resolve k.name = some binding
  right : ∀ binding, l.kind = .handwritten binding ↔ others.resolve l.name = some binding

/-- What two runs on one table have in common, whatever their overrides are. -/
structure SharesAllButKinds (parser : ScriptParser) (t : RuleTable) (c : Settings)
    (overrides others : Overrides) : Prop where
  ok_iff : (∃ m, generateWith parser t c overrides = .ok m) ↔
    ∃ n, generateWith parser t c others = .ok n
  error_iff : ∀ failure, generateWith parser t c overrides = .error failure ↔
    generateWith parser t c others = .error failure
  components : ∀ m n, generateWith parser t c overrides = .ok m →
    generateWith parser t c others = .ok n →
    List.Forall₂ (Component.AgreesButKind overrides others) m.components n.components
  dispatchers : ∀ m n, generateWith parser t c overrides = .ok m →
    generateWith parser t c others = .ok n →
    m.dispatchers = n.dispatchers
  contextModule : ∀ m n, generateWith parser t c overrides = .ok m →
    generateWith parser t c others = .ok n →
    m.contextModule = n.contextModule

section Runs

variable {parser : ScriptParser} {t : RuleTable} {c : Settings} {overrides others : Overrides}
  {m n : ComponentModule}

/-- Setting the kinds anew under the overrides of the run changes nothing. -/
theorem under_self_of_mem (hverify : c.verify = false)
    (hm : generateWith parser t c overrides = .ok m) {k : Component} (hk : k ∈ m.components) :
    k.under overrides = k := by
  have hself := generateWith_eq_map parser t overrides overrides hverify
  rw [hm] at hself
  have hcomponents : m.components = m.components.map (·.under overrides) :=
    congrArg ComponentModule.components (Except.ok.inj hself)
  have hid : m.components.map (·.under overrides) = m.components.map id := by
    rw [← hcomponents, List.map_id]
  exact List.map_inj_left.1 hid k hk

theorem eq_under_of_generateWith (hverify : c.verify = false)
    (hm : generateWith parser t c overrides = .ok m) (hn : generateWith parser t c others = .ok n) :
    n = m.under others := by
  rw [generateWith_eq_map parser t overrides others hverify, hm] at hn
  exact (Except.ok.inj hn).symm

theorem Component.agreesButKind_under {k : Component} (hk : k.under overrides = k) :
    k.AgreesButKind overrides others (k.under others) where
  name := rfl
  tagName := rfl
  specName := rfl
  propTypes := rfl
  defaultProps := rfl
  extensions := rfl
  kind halike := by
    have hkind : k.kind = .of overrides k.name k.tagName := (congrArg kind hk).symm
    rw [hkind, ComponentKind.of, halike]
    rfl
  left binding := by
    have hkind : k.kind = .of overrides k.name k.tagName := (congrArg kind hk).symm
    rw [hkind, ComponentKind.of_eq_handwritten_iff]
  right _ := ComponentKind.of_eq_handwritten_iff

end Runs

theorem sharesAllButKinds_generateWith {c : Settings} (hverify : c.verify = false)
    (parser : ScriptParser) (t : RuleTable) (overrides others : Overrides) :
    SharesAllButKinds parser t c overrides others where
  ok_iff := by
    rw [generateWith_eq_map parser t overrides others hverify]
    cases generateWith parser t c overrides <;> simp [Except.map]
  error_iff failure := by
    rw [generateWith_eq_map parser t overrides others hverify]
    cases generateWith parser t c overrides <;> simp [Except.map]
  components m n hm hn := by
    obtain rfl := eq_under_of_generateWith hverify hm hn
    refine List.forall₂_map_right_iff.2 (List.forall₂_same.2 fun k hk => ?_)
    exact Component.agreesButKind_under (under_self_of_mem hverify hm hk)
  dispatchers m n hm hn := by
    obtain rfl := eq_under_of_generateWith hverify hm hn
    rfl
  contextModule m n hm hn := by
    obtain rfl := eq_under_of_generateWith hverify hm hn
    rfl

/-- Without overrides a component of `sampleTable` changes its kind. -/
theorem sharesAllButKinds_sampleTable :
    generateWith abortingParser sampleTable { verify := false } Settings.default.registry =
        .ok sampleModule ∧
      generateWith abortingParser sampleTable { verify := false } .empty ≠ .ok sampleModule ∧
      SharesAllButKinds abortingParser sampleTable { verify := false } Settings.default.registry
        .empty :=
  ⟨generateWith_sampleTable _, by decide +kernel,
    sharesAllButKinds_generateWith rfl abortingParser sampleTable Settings.default.registry .empty⟩

end AmpComponents
