/-
The properties of one rule.

`RuleTable.props` follows the references of a rule, which are signed places in two tables, and
fills two lists.  `PropsDeclared` says what they are without following anything: a reference leads
to at most one record (`RuleTable.record?`), and the lists are those of the records that have a
name, in the order of the references and as often as they are referred to.

A rule may refer to several records of one name, and each record counts for itself.  So no default
comes from a mandatory record, and still a name may be both required and defaulted: exactly when
one record of that name is mandatory and another one is not and has a value
(`separatesDefaults_of_props`).
-/
import AmpComponents.Proofs.Outcome

namespace AmpComponents

/-! ## What a reference declares -/

namespace RuleTable

/-- The record a reference leads to: a positive one leads into `attrs`, any other by its magnitude
into `internedStrings`, where a bare text is no record. -/
def record? (t : RuleTable) (r : Int64) : Option AttributeRule :=
  if 0 < r.toInt then t.attrs[r.toInt.natAbs]?
  else match t.internedStrings[r.toInt.natAbs]? with
    | some (.record record) => some record
    | _ => none

/-- The property of a record with a name that is not empty. -/
def declaredType? (t : RuleTable) (r : Int64) : Option PropType :=
  match t.record? r with
  | some ⟨some name, mandatory, _⟩ =>
    if name = "" then none else some ⟨name, decide (mandatory = some true)⟩
  | _ => none

/-- The default of a record with a name and a value that are not empty, unless it is mandatory. -/
def declaredDefault? (t : RuleTable) (r : Int64) : Option DefaultProp :=
  match t.record? r with
  | some ⟨some name, mandatory, some value⟩ =>
    if name = "" ∨ value = "" ∨ mandatory = some true then none else some ⟨name, value⟩
  | _ => none

/-- Whether a reference leads to a record of this name. -/
def Names (t : RuleTable) (r : Int64) (name : String) (record : AttributeRule) : Prop :=
  t.record? r = some record ∧ record.name = some name ∧ name ≠ ""

variable {t : RuleTable} {r : Int64}

theorem declaredType?_eq_some_iff {name : String} {required : Bool} :
    t.declaredType? r = some ⟨name, required⟩ ↔
      ∃ record, t.Names r name record ∧ decide (record.mandatory = some true) = required := by
  unfold declaredType? Names
  constructor
  · intro h
    split at h
    · next hrecord =>
      split at h
      · cases h
      · next hname =>
        cases h
        exact ⟨_, ⟨hrecord, rfl, hname⟩, rfl⟩
    · cases h
  · rintro ⟨⟨_, mandatory, value⟩, ⟨hrecord, rfl, hname⟩, rfl⟩
    rw [hrecord]
    exact if_neg hname

theorem declaredDefault?_eq_some_iff {name value : String} :
    t.declaredDefault? r = some ⟨name, value⟩ ↔
      ∃ record, t.Names r name record ∧ record.mandatory ≠ some true ∧
        record.value = some value ∧ value ≠ "" := by
  unfold declaredDefault? Names
  constructor
  · intro h
    split at h
    · next hrecord =>
      split at h
      · cases h
      · next hnone =>
        cases h
        rw [not_or, not_or] at hnone
        exact ⟨_, ⟨hrecord, rfl, hnone.1⟩, hnone.2.2, rfl, hnone.2.1⟩
    · cases h
  · rintro ⟨⟨_, mandatory, _⟩, ⟨hrecord, rfl, hname⟩, hmandatory, rfl, hvalue⟩
    rw [hrecord]
    exact if_neg (not_or.2 ⟨hname, not_or.2 ⟨hvalue, hmandatory⟩⟩)

/-- The attribute of a reference is made from its record; without a record it is nameless. -/
theorem attribute_of_resolve {tagName : String} {a : Attribute}
    (h : t.resolve tagName r = .ok a) :
    a = ((t.record? r).map Attribute.ofRule).getD .nameless := by
  have hfound : t.attributeAt? (.ofInt64 r) = some a := by
    rw [resolve] at h
    cases hattribute : t.attributeAt? (.ofInt64 r) with
    | none => simp only [hattribute] at h; cases h
    | some b => simp only [hattribute] at h; cases h; rfl
  unfold attributeAt? AttributeRef.ofInt64 at hfound
  unfold record?
  by_cases hsign : 0 < r.toInt
  · simp only [if_pos hsign] at hfound ⊢
    rw [hfound]
    rfl
  · simp only [if_neg hsign] at hfound ⊢
    obtain ⟨entry, hentry, rfl⟩ := Option.map_eq_some_iff.1 hfound
    rw [hentry]
    cases entry <;> rfl

end RuleTable

namespace Attribute

theorem propType?_eq_some_iff {a : Attribute} {name : String} {required : Bool} :
    a.propType? = some ⟨name, required⟩ ↔ a.name = some name ∧ a.mandatory = required := by
  simp [propType?]

theorem defaultProp?_eq_some_iff {a : Attribute} {name value : String} :
    a.defaultProp? = some ⟨name, value⟩ ↔
      a.name = some name ∧ a.mandatory = false ∧ a.value = some value := by
  obtain ⟨_ | n, _ | _, _ | v⟩ := a <;> simp [defaultProp?]

/-- A record is mandatory only when it says so. -/
theorem getD_mandatory (mandatory : Option Bool) :
    mandatory.getD false = decide (mandatory = some true) := by
  rcases mandatory with _ | _ | _ <;> rfl

end Attribute

namespace RuleTable

section Resolved

variable {t : RuleTable} {r : Int64} {tagName : String} {a : Attribute}
  (h : t.resolve tagName r = .ok a)

include h

/-- A reference that is resolved declares the property of its attribute. -/
theorem declaredType?_of_resolve : t.declaredType? r = a.propType? := by
  refine Option.ext fun ⟨name, required⟩ => ?_
  rw [declaredType?_eq_some_iff, Attribute.propType?_eq_some_iff, attribute_of_resolve h]
  rcases hrecord : t.record? r with _ | record
  · simp [Names, hrecord, Attribute.nameless]
  · simp [Names, hrecord, Attribute.getD_mandatory, Attribute.ofRule, nonEmpty_eq_some_iff]

/-- A reference that is resolved declares the default of its attribute. -/
theorem declaredDefault?_of_resolve : t.declaredDefault? r = a.defaultProp? := by
  refine Option.ext fun ⟨name, value⟩ => ?_
  rw [declaredDefault?_eq_some_iff, Attribute.defaultProp?_eq_some_iff, attribute_of_resolve h]
  rcases hrecord : t.record? r with _ | record
  · simp [Names, hrecord, Attribute.nameless]
  · simp [Names, hrecord, Attribute.getD_mandatory, Attribute.ofRule, nonEmpty_eq_some_iff]

end Resolved

/-! ## What a rule declares -/

/-- The results of two partial functions on related items. -/
theorem filterMap_eq_of_forall₂ {α β γ : Type} {R : α → β → Prop} {f : α → Option γ}
    {g : β → Option γ} (hfg : ∀ a b, R a b → f a = g b) {as : List α} {bs : List β}
    (h : List.Forall₂ R as bs) : as.filterMap f = bs.filterMap g := by
  induction h with
  | nil => rfl
  | cons hab _ ih => rw [List.filterMap_cons, List.filterMap_cons, hfg _ _ hab, ih]

/-- The properties of a rule are declared by its references, in their order. -/
theorem props_eq_of_ok {t : RuleTable} {rule : TagRule} {p : Props} (h : t.props rule = .ok p) :
    p.types = rule.attrs.filterMap t.declaredType? ∧
      p.defaults = rule.attrs.filterMap t.declaredDefault? := by
  unfold props at h
  cases hattributes : rule.attrs.mapM (t.resolve rule.tagName) with
  | error failure =>
    rw [hattributes] at h
    cases h
  | ok attributes =>
    rw [hattributes] at h
    cases h
    have hresolved := mapM_eq_ok_iff_forall₂.1 hattributes
    have htypes := filterMap_eq_of_forall₂ (fun r a h => declaredType?_of_resolve h) hresolved
    have hdefaults :=
      filterMap_eq_of_forall₂ (fun r a h => declaredDefault?_of_resolve h) hresolved
    exact ⟨htypes.symm, hdefaults.symm⟩

/-- The properties of a rule, or what keeps it from having any. -/
structure PropsDeclared (t : RuleTable) (rule : TagRule) : Prop where
  ok_iff : (∃ p, t.props rule = .ok p) ↔ ∀ r ∈ rule.attrs, t.dangles r = false
  /-- One property for each reference to a record with a name, however often it is made. -/
  types : ∀ p, t.props rule = .ok p → p.types = rule.attrs.filterMap t.declaredType?
  defaults : ∀ p, t.props rule = .ok p → p.defaults = rule.attrs.filterMap t.declaredDefault?
  /-- The first reference that dangles is reported. -/
  error_iff : ∀ failure, t.props rule = .error failure ↔
    ∃ r, rule.attrs.find? t.dangles = some r ∧ failure = t.danglingFailure rule.tagName r

theorem propsDeclared (t : RuleTable) (rule : TagRule) : t.PropsDeclared rule where
  ok_iff := by
    rw [← firstFailure_eq_none_iff, firstFailure_props, Option.map_eq_none_iff,
      List.find?_eq_none]
    simp only [Bool.not_eq_true]
  types _ h := (props_eq_of_ok h).1
  defaults _ h := (props_eq_of_ok h).2
  error_iff failure := by
    rw [← firstFailure_eq_some_iff, firstFailure_props, Option.map_eq_some_iff]
    simp only [eq_comm]

/-- The lowest reference has a magnitude that is no reference. -/
example : danglingFailure ⟨[], [], []⟩ "amp-img" Int64.minValue =
    .danglingAttribute "amp-img" .internedStrings 9223372036854775808 0 := by decide

end RuleTable

/-! ## Required and defaulted names -/

/-- Items that a function picks are among those that one picks that picks no fewer. -/
theorem filterMap_sublist_filterMap {α β : Type} {f g : α → Option β}
    (h : ∀ a b, f a = some b → g a = some b) (as : List α) :
    (as.filterMap f).Sublist (as.filterMap g) := by
  induction as with
  | nil => exact List.Sublist.refl _
  | cons a as ih =>
    cases hf : f a with
    | none =>
      rw [List.filterMap_cons_none hf]
      cases hg : g a with
      | none => rwa [List.filterMap_cons_none hg]
      | some b =>
        rw [List.filterMap_cons_some hg]
        exact ih.cons b
    | some b =>
      rw [List.filterMap_cons_some hf, List.filterMap_cons_some (h a b hf)]
      exact ih.cons_cons b

namespace RuleTable

/-- Whether a rule refers to a mandatory record of this name. -/
def Requires (t : RuleTable) (rule : TagRule) (name : String) : Prop :=
  ∃ r ∈ rule.attrs, ∃ record, t.Names r name record ∧ record.mandatory = some true

/-- Whether a rule refers to a record of this name that gives it a default: one that is not
mandatory and has a value. -/
def GivesDefault (t : RuleTable) (rule : TagRule) (name : String) : Prop :=
  ∃ r ∈ rule.attrs, ∃ record, t.Names r name record ∧ record.mandatory ≠ some true ∧
    ∃ value, record.value = some value ∧ value ≠ ""

/-- How the defaults of a rule stand to its required properties. -/
structure SeparatesDefaults (t : RuleTable) (rule : TagRule) (p : Props) : Prop where
  /-- In their order the defaults are for properties that are not required. -/
  optional : (p.defaults.map (·.name)).Sublist ((p.types.filter (!·.required)).map (·.name))
  /-- A required name has a default when another record gives it one, and only then. -/
  clash_iff : ∀ name, (⟨name, true⟩ ∈ p.types ∧ name ∈ p.defaults.map (·.name)) ↔
    t.Requires rule name ∧ t.GivesDefault rule name
  /-- When records of one name are mandatory together, no required name has a default. -/
  apart : (∀ name, t.Requires rule name → ¬t.GivesDefault rule name) →
    ∀ name, ⟨name, true⟩ ∈ p.types → name ∉ p.defaults.map (·.name)

section Separated

variable {t : RuleTable} {rule : TagRule} {p : Props} (h : t.props rule = .ok p)

include h

theorem mem_types_required_iff {name : String} :
    ⟨name, true⟩ ∈ p.types ↔ t.Requires rule name := by
  rw [(props_eq_of_ok h).1, List.mem_filterMap]
  simp only [declaredType?_eq_some_iff, decide_eq_true_eq]
  rfl

theorem mem_names_defaults_iff {name : String} :
    name ∈ p.defaults.map (·.name) ↔ t.GivesDefault rule name := by
  rw [(props_eq_of_ok h).2, List.mem_map]
  constructor
  · rintro ⟨⟨_, value⟩, hmem, rfl⟩
    obtain ⟨r, hr, hdefault⟩ := List.mem_filterMap.1 hmem
    obtain ⟨record, hnames, hoptional, hvalue⟩ := declaredDefault?_eq_some_iff.1 hdefault
    exact ⟨r, hr, record, hnames, hoptional, value, hvalue⟩
  · rintro ⟨r, hr, record, hnames, hoptional, value, hvalue⟩
    refine ⟨⟨name, value⟩, List.mem_filterMap.2 ⟨r, hr, ?_⟩, rfl⟩
    exact declaredDefault?_eq_some_iff.2 ⟨record, hnames, hoptional, hvalue⟩

/-- A reference that gives a default declares a property that is not required. -/
theorem names_defaults_sublist :
    (p.defaults.map (·.name)).Sublist ((p.types.filter (!·.required)).map (·.name)) := by
  rw [(props_eq_of_ok h).1, (props_eq_of_ok h).2, List.filter_filterMap, List.map_filterMap,
    List.map_filterMap]
  refine filterMap_sublist_filterMap (fun r name hname => ?_) rule.attrs
  obtain ⟨⟨_, value⟩, hdefault, rfl⟩ := Option.map_eq_some_iff.1 hname
  obtain ⟨record, hnames, hoptional, -⟩ := declaredDefault?_eq_some_iff.1 hdefault
  have htype : t.declaredType? r = some ⟨_, false⟩ :=
    declaredType?_eq_some_iff.2 ⟨record, hnames, decide_eq_false hoptional⟩
  rw [htype]
  rfl

theorem separatesDefaults_of_props : t.SeparatesDefaults rule p where
  optional := names_defaults_sublist h
  clash_iff name := by rw [mem_types_required_iff h, mem_names_defaults_iff h]
  apart hagree name hrequired hdefault := by
    rw [mem_types_required_iff h] at hrequired
    rw [mem_names_defaults_iff h] at hdefault
    exact hagree name hrequired hdefault

end Separated

theorem separatesDefaults_sampleTable : ∃ rule ∈ sampleTable.tags,
    sampleTable.props rule = .ok ⟨[⟨"src", true⟩, ⟨"width", false⟩], [⟨"width", "100"⟩]⟩ ∧
      sampleTable.SeparatesDefaults rule
        ⟨[⟨"src", true⟩, ⟨"width", false⟩], [⟨"width", "100"⟩]⟩ := by
  have hprops : sampleTable.props ⟨"amp-ad", some "a", none, [1, -1], none⟩ =
      .ok ⟨[⟨"src", true⟩, ⟨"width", false⟩], [⟨"width", "100"⟩]⟩ := by decide +kernel
  exact ⟨_, List.mem_cons_self, hprops, separatesDefaults_of_props hprops⟩

/-- One name in both tables, mandatory in the first and with a value in the second. -/
def clashingTable : RuleTable where
  tags := [⟨"amp-state", none, none, [1, -1], none⟩]
  attrs := [⟨none, none, none⟩, ⟨some "id", some true, none⟩]
  internedStrings := [.text "layout", .record ⟨some "id", none, some "state"⟩]

/-- A required name can have a default. -/
theorem not_apart_clashingTable :
    ¬∀ (t : RuleTable) (rule : TagRule) (p : Props), t.props rule = .ok p →
      ∀ name, ⟨name, true⟩ ∈ p.types → name ∉ p.defaults.map (·.name) := by
  intro h
  have hprops : clashingTable.props ⟨"amp-state", none, none, [1, -1], none⟩ =
      .ok ⟨[⟨"id", true⟩, ⟨"id", false⟩], [⟨"id", "state"⟩]⟩ := by decide +kernel
  exact h _ _ _ hprops "id" (by decide) (by decide)

end RuleTable
end AmpComponents
