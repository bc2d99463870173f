/-
The lines of a module, part by part.

A module's text is one list of lines: those of the preamble, and for every component and every
dispatcher a blank line and its own lines (`ComponentModule.lines_eq`).  Here the lines are taken
apart into the pieces that the theorems about the text speak of, and every one of them is shown to
be one line of the text (`isLine_of_mem_lines`).  Names, tags and variants stand in the text as they
are, so they have to stay within their line by themselves; `IsPrintable` asks for that.  Everything
else is written as a literal, which stays within its line whatever it holds.
-/
import AmpComponents.Proofs.Script.Dispatcher

namespace AmpComponents

open Text (literal)
open Script (isWord feed_not_mem_literal feed_not_mem_of_isWord)

/-! ## Printable modules -/

/-- An element tag has to stay within its line; a local name has to be a word. -/
def ComponentKind.IsPrintable : ComponentKind → Prop
  | .element tag => '\n' ∉ tag.toList
  | .handwritten binding => isWord binding.localName = true

/-- What stands in the text as it is stays within its line, and a name is a word. -/
structure Component.IsPrintable (c : Component) : Prop where
  name : isWord c.name = true
  kind : c.kind.IsPrintable

structure Dispatcher.IsPrintable (d : Dispatcher) : Prop where
  name : isWord d.name = true
  variants : ∀ v ∈ d.variants, isWord v.component = true

structure ComponentModule.IsPrintable (m : ComponentModule) : Prop where
  components : ∀ c ∈ m.components, c.IsPrintable
  dispatchers : ∀ d ∈ m.dispatchers, d.IsPrintable

instance (kind : ComponentKind) : Decidable kind.IsPrintable :=
  match kind with
  | .element _ => inferInstanceAs (Decidable (_ ∉ _))
  | .handwritten _ => inferInstanceAs (Decidable (_ = _))

instance (c : Component) : Decidable c.IsPrintable :=
  decidable_of_iff (isWord c.name = true ∧ c.kind.IsPrintable)
    ⟨fun h => ⟨h.1, h.2⟩, fun h => ⟨h.1, h.2⟩⟩

instance (d : Dispatcher) : Decidable d.IsPrintable :=
  decidable_of_iff (isWord d.name = true ∧ ∀ v ∈ d.variants, isWord v.component = true)
    ⟨fun h => ⟨h.1, h.2⟩, fun h => ⟨h.1, h.2⟩⟩

instance (m : ComponentModule) : Decidable m.IsPrintable :=
  decidable_of_iff ((∀ c ∈ m.components, c.IsPrintable) ∧ ∀ d ∈ m.dispatchers, d.IsPrintable)
    ⟨fun h => ⟨h.1, h.2⟩, fun h => ⟨h.1, h.2⟩⟩

/-! ## Parts -/

theorem joinSections_cons (s : List String) (rest : List (List String)) :
    joinSections (s :: rest) = s ++ rest.flatMap ("" :: ·) := by
  induction rest generalizing s with
  | nil => rw [joinSections, List.flatMap_nil, List.append_nil]
  | cons t rest ih => rw [joinSections, ih, List.flatMap_cons, List.cons_append]

theorem ComponentModule.lines_eq (m : ComponentModule) :
    m.lines = preambleLines m.contextModule ++
      (m.components.flatMap (fun c => "" :: c.lines) ++
        m.dispatchers.flatMap fun d => "" :: d.lines) := by
  rw [lines, sections, List.cons_append, joinSections_cons, List.flatMap_append, List.flatMap_map,
    List.flatMap_map]

/-- A section that is left out when it has no items. -/
def blockLines (opening : String) (items : List String) : List String :=
  if items.isEmpty then [] else "" :: opening :: (items ++ ["\x7d;"])

theorem mem_blockLines {opening line : String} {items : List String}
    (h : line ∈ blockLines opening items) :
    line = "" ∨ line = opening ∨ line ∈ items ∨ line = "\x7d;" := by
  unfold blockLines at h
  split at h
  · exact absurd h List.not_mem_nil
  · simpa only [List.mem_cons, List.mem_append, List.not_mem_nil, or_false] using h

theorem propTypesLines_eq (name : String) (props : List PropType) :
    propTypesLines name props =
      blockLines (name ++ ".propTypes = \x7b") (props.map propTypeLine) := by
  cases props <;> rfl

theorem defaultPropsLines_eq (name : String) (props : List DefaultProp) :
    defaultPropsLines name props =
      blockLines (name ++ ".defaultProps = \x7b") (props.map defaultPropLine) := by
  cases props <;> rfl

/-- What every element's component says of its context. -/
def contextTypeLines : List String :=
  ["  [CONTEXT_KEY]: PropTypes.shape(\x7b",
   "    addComponent: PropTypes.func.isRequired,",
   "  \x7d),"]

theorem contextTypesLines_eq (name : String) :
    contextTypesLines name = blockLines (name ++ ".contextTypes = \x7b") contextTypeLines :=
  rfl

def importLine (b : Binding) : String :=
  "import " ++ b.localName ++ " from " ++ literal b.importSource ++ ";"

/-- The line that declares a component.  One written by hand is exported where it is declared. -/
def declareLine (keyword name : String) (extensions : List String) : String :=
  keyword ++ name ++ " = " ++ signature extensions ++ " => \x7b"

/-- The guards of a component and what it renders. -/
def bodyLines (extensions : List String) (element : String) : List String :=
  extensions.map guardLine ++ [renderLine element, "\x7d;"]

theorem mem_bodyLines {extensions : List String} {element line : String}
    (h : line ∈ bodyLines extensions element) :
    (∃ extension, line = guardLine extension) ∨ line = renderLine element ∨ line = "\x7d;" := by
  simp only [bodyLines, List.mem_append, List.mem_map, List.mem_cons, List.not_mem_nil,
    or_false] at h
  rcases h with ⟨extension, -, rfl⟩ | rfl | rfl
  · exact .inl ⟨extension, rfl⟩
  · exact .inr (.inl rfl)
  · exact .inr (.inr rfl)

/-- What stands behind the body of an element's component. -/
def elementLines (name : String) (propTypes : List PropType) (defaultProps : List DefaultProp) :
    List String :=
  propTypesLines name propTypes ++ (defaultPropsLines name defaultProps ++
    (contextTypesLines name ++ ["", exportLine name]))

theorem Component.lines_of_handwritten {c : Component} {b : Binding}
    (h : c.kind = .handwritten b) :
    c.lines = importLine b :: declareLine "export const " c.name c.extensions ::
      bodyLines c.extensions b.localName := by
  rw [lines, h]
  rfl

theorem Component.lines_of_element {c : Component} {tag : String} (h : c.kind = .element tag) :
    c.lines = declareLine "const " c.name c.extensions ::
      (bodyLines c.extensions tag ++ elementLines c.name c.propTypes c.defaultProps) := by
  rw [lines, h]
  simp only [bodyLines, elementLines, declareLine, List.cons_append, List.nil_append,
    List.append_assoc]

/-! ## Staying within the line -/

theorem feed_not_mem_signature (extensions : List String) :
    '\n' ∉ (signature extensions).toList := by
  unfold signature
  split
  · exact feed_not_mem_ofList (by decide)
  · exact feed_not_mem_ofList (by decide)

theorem isLine_of_mem_helperLines : ∀ line ∈ helperLines, IsLine line.toList := by
  unfold helperLines
  repeat refine List.forall_mem_cons.2 ⟨isLine_ofList (by decide), ?_⟩
  exact List.forall_mem_nil _

theorem isLine_of_mem_preambleLines {contextModule line : String}
    (h : line ∈ preambleLines contextModule) : IsLine line.toList := by
  simp only [preambleLines, List.cons_append, List.nil_append, List.mem_cons] at h
  rcases h with rfl | rfl | rfl | rfl | h
  · exact isLine_ofList (by decide)
  · exact isLine_ofList (by decide)
  · exact isLine_around (feed_not_mem_literal _) (by decide)
  · exact isLine_blank
  · exact isLine_of_mem_helperLines line h

theorem isLine_importLine {b : Binding} (h : isWord b.localName = true) :
    IsLine (importLine b).toList :=
  isLine_around_two (feed_not_mem_of_isWord h) (feed_not_mem_literal _) (by decide)

theorem isLine_declareLine {keyword : List Char} (hkeyword : '\n' ∉ keyword) {name : String}
    (h : isWord name = true) (extensions : List String) :
    IsLine (declareLine (String.ofList keyword) name extensions).toList :=
  isLine_around_two (feed_not_mem_of_isWord h) (feed_not_mem_signature _)
    ⟨hkeyword, by decide, by decide⟩

theorem isLine_of_mem_bodyLines {extensions : List String} {element line : String}
    (helement : '\n' ∉ element.toList) (h : line ∈ bodyLines extensions element) :
    IsLine line.toList := by
  rcases mem_bodyLines h with ⟨extension, rfl⟩ | rfl | rfl
  · exact isLine_around (feed_not_mem_literal _) (by decide)
  · exact isLine_around helement (by decide)
  · exact isLine_brace

theorem isLine_propTypeLine (p : PropType) : IsLine (propTypeLine p).toList := by
  have hrequired : '\n' ∉ (if p.required = true then ".isRequired" else "").toList := by
    split
    · exact feed_not_mem_ofList (by decide)
    · exact feed_not_mem_ofList (by decide)
  exact isLine_around_two (feed_not_mem_literal _) hrequired (by decide)

theorem isLine_defaultPropLine (p : DefaultProp) : IsLine (defaultPropLine p).toList :=
  isLine_around_two (feed_not_mem_literal _) (feed_not_mem_literal _) (by decide)

theorem isLine_of_mem_blockLines {opening line : String} {items : List String}
    (hopening : IsLine opening.toList) (hitems : ∀ item ∈ items, IsLine item.toList)
    (h : line ∈ blockLines opening items) : IsLine line.toList := by
  rcases mem_blockLines h with rfl | rfl | h | rfl
  · exact isLine_blank
  · exact hopening
  · exact hitems line h
  · exact isLine_brace

theorem isLine_of_mem_elementLines {name line : String} (hname : isWord name = true)
    {propTypes : List PropType} {defaultProps : List DefaultProp}
    (h : line ∈ elementLines name propTypes defaultProps) : IsLine line.toList := by
  have hfeed := feed_not_mem_of_isWord hname
  rw [elementLines, propTypesLines_eq, defaultPropsLines_eq, contextTypesLines_eq,
    List.mem_append, List.mem_append, List.mem_append] at h
  rcases h with h | h | h | h
  · refine isLine_of_mem_blockLines (isLine_before hfeed (by decide)) ?_ h
    exact List.forall_mem_map.2 fun p _ => isLine_propTypeLine p
  · refine isLine_of_mem_blockLines (isLine_before hfeed (by decide)) ?_ h
    exact List.forall_mem_map.2 fun p _ => isLine_defaultPropLine p
  · refine isLine_of_mem_blockLines (isLine_before hfeed (by decide)) ?_ h
    unfold contextTypeLines
    repeat refine List.forall_mem_cons.2 ⟨isLine_ofList (by decide), ?_⟩
    exact List.forall_mem_nil _
  · simp only [List.mem_cons, List.not_mem_nil, or_false] at h
    rcases h with rfl | rfl
    · exact isLine_blank
    · exact isLine_around hfeed (by decide)

theorem Component.isLine_of_mem_lines {c : Component} (hc : c.IsPrintable) {line : String}
    (h : line ∈ c.lines) : IsLine line.toList := by
  have hkind := hc.kind
  cases hk : c.kind with
  | handwritten binding =>
    rw [hk] at hkind
    rw [lines_of_handwritten hk, List.mem_cons, List.mem_cons] at h
    rcases h with rfl | rfl | h
    · exact isLine_importLine hkind
    · exact isLine_declareLine (by decide) hc.name _
    · exact isLine_of_mem_bodyLines (feed_not_mem_of_isWord hkind) h
  | element tag =>
    rw [hk] at hkind
    rw [lines_of_element hk, List.mem_cons, List.mem_append] at h
    rcases h with rfl | h | h
    · exact isLine_declareLine (by decide) hc.name _
    · exact isLine_of_mem_bodyLines hkind h
    · exact isLine_of_mem_elementLines hc.name h

/-- Every line of a printable module is one line of its text. -/
theorem ComponentModule.isLine_of_mem_lines {m : ComponentModule} (hm : m.IsPrintable)
    {line : String} (h : line ∈ m.lines) : IsLine line.toList := by
  rw [lines_eq, List.mem_append, List.mem_append, List.mem_flatMap, List.mem_flatMap] at h
  rcases h with h | ⟨c, hc, h⟩ | ⟨d, hd, h⟩
  · exact isLine_of_mem_preambleLines h
  · rcases List.mem_cons.1 h with rfl | h
    · exact isLine_blank
    · exact Component.isLine_of_mem_lines (hm.components c hc) h
  · rcases List.mem_cons.1 h with rfl | h
    · exact isLine_blank
    · exact Script.isLine_of_mem_lines (hm.dispatchers d hd).name (hm.dispatchers d hd).variants h

theorem ComponentModule.lines_text {m : ComponentModule} (hm : m.IsPrintable) :
    Text.lines m.text = m.lines :=
  lines_renderLines fun _ h => isLine_of_mem_lines hm h

end AmpComponents
