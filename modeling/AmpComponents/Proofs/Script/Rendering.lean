/-
What is shown for a component or a dispatcher, by its emitted lines.

Both are functions of their properties whose lines are gone through from the top: a branch of a
dispatcher returns an element when `props.specName` is its name, and a line of its own returns one
in any case.  Every element is given what the helper makes of the properties, and the helper is the
one that the preamble defines.  `selected` follows the lines and `shown` adds what is given; neither
looks at the component the lines were made from.

So a page that goes through a dispatcher runs the helper twice, first in the dispatcher and then in
the variant that the dispatcher shows.  The second run changes nothing, and the name that led to the
variant is gone by then, so the variant shows what it shows for the same properties by itself
(`showsAlike_of_select`).
-/
import AmpComponents.Proofs.Dispatch
import AmpComponents.Proofs.Script.Helper

namespace AmpComponents

/-- What stands in the markup for a component: its tag, or the name it is imported under. -/
def ComponentKind.root : ComponentKind → String
  | .element tag => tag
  | .handwritten binding => binding.localName

namespace Script

/-! ## Reading -/

def returnStart : List Char := "  return <".toList

/-- The element of a markup tag that is given the treated properties. -/
def readElement (s : List Char) : Option String :=
  (branchEnd.isSuffixOf? s).map String.ofList

/-- The name that a branch compares with and the element it returns, which need not be a word. -/
def readSelection (line : String) : Option (List UInt16 × String) := do
  let (name, rest) ← readString (← branchStart.isPrefixOf? line.toList)
  let element ← readElement (← branchReturn.isPrefixOf? rest)
  return (name, element)

/-- The element that a line returns in any case. -/
def readReturn (line : String) : Option String := do
  readElement (← returnStart.isPrefixOf? line.toList)

/-- `props.specName`, when it is a string. -/
def specName? (props : Properties) : Option String :=
  match props.find? "specName" with
  | some (.text s) => some s
  | _ => none

/-- The element that the function in these lines returns; other lines are passed over. -/
def selected (props : Properties) : List String → Option String
  | [] => none
  | line :: rest =>
    if line = "  return null;" then none
    else match readSelection line with
      | some (name, element) =>
        if (specName? props).map (codeUnits ·.toList) = some name then some element
        else selected props rest
      | none =>
        match readReturn line with
        | some element => some element
        | none => selected props rest

/-- The element that the function in `lines` returns, and the properties it is given. -/
def shown (preamble lines : List String) (props : Properties) : Option (String × Properties) := do
  let element ← selected props lines
  let given ← runHelper preamble props
  return (element, given)

/-! ## Lines that return -/

theorem readElement_append (element : String) :
    readElement (element.toList ++ branchEnd) = some element := by
  rw [readElement, List.isSuffixOf?_eq_some_iff_append_eq.2 rfl, Option.map_some,
    String.ofList_toList]

theorem readSelection_variantLine (v : Variant) :
    readSelection (variantLine v) = some (codeUnits v.specName.toList, v.component) := by
  rw [readSelection, toList_variantLine]
  simp only [isPrefixOf?_append, bind, Option.bind, readString_literalChars, readElement_append]
  rfl

theorem toList_renderLine (element : String) :
    (renderLine element).toList = returnStart ++ (element.toList ++ branchEnd) := by
  rw [renderLine, String.toList_append, String.toList_append, List.append_assoc]
  rfl

theorem readReturn_renderLine (element : String) :
    readReturn (renderLine element) = some element := by
  rw [readReturn, toList_renderLine]
  simp only [isPrefixOf?_append, bind, Option.bind, readElement_append]

/-! ## Lines that are passed over -/

structure Passes (line : String) : Prop where
  null : line ≠ "  return null;"
  selection : readSelection line = none
  returns : readReturn line = none

theorem readSelection_eq_none {line : String} (h : branchStart.isPrefixOf? line.toList = none) :
    readSelection line = none := by
  rw [readSelection, h]
  rfl

theorem readReturn_eq_none {line : String} (h : returnStart.isPrefixOf? line.toList = none) :
    readReturn line = none := by
  rw [readReturn, h]
  rfl

/-- How the lines start that are not passed over. -/
def returningStarts : List (List Char) := [branchStart, returnStart, "  return null;".toList]

/-- Whether a text starts otherwise. -/
def StartsOther (s : String) : Prop := ∀ start ∈ returningStarts, Text.Departs start s.toList

instance (s : String) : Decidable (StartsOther s) :=
  inferInstanceAs (Decidable (∀ start ∈ returningStarts, Text.Departs start s.toList))

theorem StartsOther.append {s : String} (h : StartsOther s) (rest : String) :
    StartsOther (s ++ rest) := by
  intro start hstart
  rw [String.toList_append]
  rintro (hshort | hlong)
  · exact Text.not_prefix_append (h start hstart) _ hshort
  · exact h start hstart (.inr ((List.prefix_append _ _).trans hlong))

theorem StartsOther.passes {line : String} (h : StartsOther line) : Passes line := by
  obtain ⟨hselection, hothers⟩ := List.forall_mem_cons.1 h
  obtain ⟨hreturns, hothers⟩ := List.forall_mem_cons.1 hothers
  have hnull := List.forall_mem_singleton.1 hothers
  have hnone : ∀ start, Text.Departs start line.toList → start.isPrefixOf? line.toList = none := by
    intro start hdeparts
    have hread := isPrefixOf?_eq_none hdeparts []
    rwa [List.append_nil] at hread
  constructor
  case null =>
    intro heq
    exact hnull (.inl (heq ▸ List.prefix_rfl))
  case selection => exact readSelection_eq_none (hnone _ hselection)
  case returns => exact readReturn_eq_none (hnone _ hreturns)

theorem passes_guardLine (extension : String) : Passes (guardLine extension) := by
  have hstart : StartsOther "  contextHelper(\x7b context, extension: " := by decide +kernel
  exact ((hstart.append _).append _).passes

theorem passes_importLine (b : Binding) : Passes (importLine b) := by
  have hstart : StartsOther "import " := by decide +kernel
  exact ((((hstart.append _).append _).append _).append _).passes

theorem passes_openingLine (d : Dispatcher) : Passes (openingLine d) := by
  have hstart : StartsOther "const " := by decide +kernel
  exact ((hstart.append _).append _).passes

theorem passes_declareLine {keyword : String} (h : StartsOther keyword) (name : String)
    (extensions : List String) : Passes (declareLine keyword name extensions) :=
  ((((h.append _).append _).append _).append _).passes

/-! ## Following the lines -/

section Following

variable (props : Properties)

theorem selected_append {before : List String} (h : ∀ line ∈ before, Passes line)
    (rest : List String) : selected props (before ++ rest) = selected props rest := by
  induction before with
  | nil => rfl
  | cons line before ih =>
    obtain ⟨hline, hbefore⟩ := List.forall_mem_cons.1 h
    rw [List.cons_append, selected, if_neg hline.null, hline.selection, hline.returns]
    exact ih hbefore

theorem renderLine_ne_null (element : String) : renderLine element ≠ "  return null;" := by
  intro heq
  have hread := readReturn_renderLine element
  rw [heq, readReturn_eq_none (isPrefixOf?_toList (by decide))] at hread
  cases hread

theorem readSelection_renderLine (element : String) :
    readSelection (renderLine element) = none := by
  apply readSelection_eq_none
  rw [toList_renderLine]
  exact isPrefixOf?_eq_none (Text.departs_toList (by decide)) _

theorem selected_bodyLines (extensions : List String) (element : String) (rest : List String) :
    selected props (bodyLines extensions element ++ rest) = some element := by
  have hguards : ∀ line ∈ extensions.map guardLine, Passes line :=
    List.forall_mem_map.2 fun extension _ => passes_guardLine extension
  rw [bodyLines, List.append_assoc, selected_append props hguards, List.cons_append, selected,
    if_neg (renderLine_ne_null element), readSelection_renderLine, readReturn_renderLine]

/-- A component returns its root in any case. -/
theorem selected_component (k : Component) : selected props k.lines = some k.kind.root := by
  cases hk : k.kind with
  | element tag =>
    have hdeclare : ∀ line ∈ [declareLine "const " k.name k.extensions], Passes line :=
      List.forall_mem_singleton.2 (passes_declareLine (by decide +kernel) _ _)
    rw [Component.lines_of_element hk]
    exact (selected_append props hdeclare _).trans (selected_bodyLines props _ _ _)
  | handwritten b =>
    have hdeclare : ∀ line ∈ [importLine b, declareLine "export const " k.name k.extensions],
        Passes line :=
      List.forall_mem_cons.2 ⟨passes_importLine b,
        List.forall_mem_singleton.2 (passes_declareLine (by decide +kernel) _ _)⟩
    rw [Component.lines_of_handwritten hk, ← List.append_nil (bodyLines _ _)]
    exact (selected_append props hdeclare _).trans (selected_bodyLines props _ _ _)

/-- The induction follows the chain: a branch either returns or leaves the rest to decide. -/
theorem selected_variantLines (variants : List Variant) (rest : List String) :
    selected props (variants.map variantLine ++ "  return null;" :: rest) =
      (specName? props).bind fun s => (variants.find? (·.specName = s)).map (·.component) := by
  induction variants with
  | nil =>
    have hnone : selected props ("  return null;" :: rest) = none := if_pos rfl
    cases specName? props <;> exact hnone
  | cons v variants ih =>
    rw [List.map_cons, List.cons_append, selected, if_neg (variantLine_ne_return v),
      readSelection_variantLine]
    cases hs : specName? props with
    | none =>
      rw [hs] at ih
      exact ih
    | some s =>
      rw [hs, Option.bind_some] at ih
      by_cases hname : v.specName = s
      · rw [Option.bind_some, List.find?_cons_of_pos (by simpa using hname), hname]
        exact if_pos rfl
      · have hne : some (codeUnits s.toList) ≠ some (codeUnits v.specName.toList) := fun e =>
          hname (String.toList_inj.1 (codeUnits_inj.1 (Option.some.inj e))).symm
        rw [Option.bind_some, List.find?_cons_of_neg (by simpa using hname), ← ih]
        exact if_neg hne

/-- A dispatcher returns what it selects, and nothing when `props.specName` is no string. -/
theorem selected_dispatcher (d : Dispatcher) :
    selected props d.lines = (specName? props).bind d.select := by
  have hopening : ∀ line ∈ [openingLine d], Passes line :=
    List.forall_mem_singleton.2 (passes_openingLine d)
  rw [lines_eq]
  exact (selected_append props hopening _).trans (selected_variantLines props d.variants _)

end Following

/-! ## Pages -/

theorem shown_component (contextModule : String) (k : Component) (props : Properties) :
    shown (preambleLines contextModule) k.lines props =
      some (k.kind.root, renderedProps props) := by
  rw [shown, selected_component, runHelper_preambleLines]
  rfl

theorem shown_dispatcher (contextModule : String) (d : Dispatcher) (props : Properties) :
    shown (preambleLines contextModule) d.lines props =
      ((specName? props).bind d.select).map fun name => (name, renderedProps props) := by
  rw [shown, selected_dispatcher, runHelper_preambleLines]
  cases (specName? props).bind d.select <;> rfl

/-- What going through a dispatcher comes to, for a variant that it selects. -/
structure ShowsAlike (preamble : List String) (d : Dispatcher) (k : Component)
    (props : Properties) : Prop where
  /-- The dispatcher shows the variant and treats the properties for the first time. -/
  first : shown preamble d.lines props = some (k.name, renderedProps props)
  /-- The variant treats them for the second time. -/
  second : shown preamble k.lines (renderedProps props) =
    some (k.kind.root, renderedProps (renderedProps props))
  /-- It shows what it shows by itself, for these properties or for others that differ in the name
  that led to it. -/
  alike : ∀ direct : Properties, direct.erase "specName" = props.erase "specName" →
    shown preamble k.lines (renderedProps props) = shown preamble k.lines direct

section Pages

variable {d : Dispatcher} {k : Component} {props : Properties} {s : String}

theorem showsAlike_of_select (contextModule : String)
    (hs : props.find? "specName" = some (.text s)) (hk : d.select s = some k.name) :
    ShowsAlike (preambleLines contextModule) d k props where
  first := by
    have hname : specName? props = some s := by rw [specName?, hs]
    rw [shown_dispatcher, hname, Option.bind_some, hk, Option.map_some]
  second := shown_component contextModule k _
  alike direct hdirect := by
    rw [shown_component, shown_component, renderedProps_renderedProps, renderedProps_congr hdirect]

/-- A name that a dispatcher of a module selects is that of a component of the module. -/
theorem exists_showsAlike_of_generateWith {parser : ScriptParser} {t : RuleTable} {c : Settings}
    {overrides : Overrides} {m : ComponentModule}
    (h : generateWith parser t c overrides = .ok m) (hd : d ∈ m.dispatchers)
    {n : String} (hs : props.find? "specName" = some (.text s)) (hselect : d.select s = some n) :
    ∃ k ∈ m.components, k.tagName = d.tagName ∧ k.name = n ∧
      ShowsAlike (preambleLines m.contextModule) d k props := by
  obtain ⟨k, hk, htag, -, rfl⟩ := (select_eq_some_iff_component h hd).1 hselect
  exact ⟨k, hk, htag, rfl, showsAlike_of_select m.contextModule hs hselect⟩

end Pages

theorem givesProps_and_showsAlike :
    (∀ (α : Type) (p : OrderedMap String α), GivesProps p (renderedProps p)) ∧
      ∀ (contextModule : String) (d : Dispatcher) (k : Component) (props : Properties) (s : String),
        props.find? "specName" = some (.text s) → d.select s = some k.name →
          ShowsAlike (preambleLines contextModule) d k props :=
  ⟨fun _ => givesProps_renderedProps,
    fun contextModule _ _ _ _ hs hk => showsAlike_of_select contextModule hs hk⟩

/-- Properties with all three keys, one of them null. -/
def sampleProps : Properties :=
  .ofList [("class", .text "wide"), ("specName", .text "it's"), ("className", .null),
    ("layout", .text "fill")]

def sampleVariant : Component :=
  ⟨"AmpAd1", "AMP-AD", some "it's", .element "amp-ad", [], [], ["amp-ad"]⟩

theorem showsAlike_sampleProps :
    sampleProps.find? "specName" = some (.text "it's") ∧
      sampleDispatcher.select "it's" = some sampleVariant.name ∧
      sampleProps.find? "className" = some .null ∧
      (renderedProps sampleProps).find? "class" = some .null ∧
      ShowsAlike (preambleLines "../AmpScripts") sampleDispatcher sampleVariant sampleProps := by
  have hname : sampleProps.find? "specName" = some (.text "it's") := by rfl
  have hselect : sampleDispatcher.select "it's" = some sampleVariant.name := by decide +kernel
  have hclass : sampleProps.find? "className" = some .null := by rfl
  exact ⟨hname, hselect, hclass,
    (givesProps_and_showsAlike.1 Json.Value sampleProps).renamed _ hclass,
    givesProps_and_showsAlike.2 _ _ _ _ _ hname hselect⟩

end Script
end AmpComponents
