/-
The names a module's text binds.

A line that begins with `import `, `const ` or `export const ` binds one name, the first word behind
that.  `readBinding` reads it from the line, without looking at the module.  The lines inside of a
function are indented, so what is read this way is bound at the top of the module.  In the text of a
printable module that is (`filterMap_readBinding_text`)

  the names of the preamble, the local name and the name of every component, and the name of every
  dispatcher,

each where its section stands.  A line that begins with a name may begin with a keyword, but then a
dot follows where the keyword has a blank.
-/
import AmpComponents.Proofs.Emission.Exports

namespace AmpComponents

open Text (literal)

/-! ## Names of a module -/

/-- What the preamble binds. -/
def preambleNames : List String :=
  ["React", "PropTypes", "CONTEXT_KEY", "propsHelper", "contextHelper"]

/-- The name under which a component written by hand is imported. -/
def Component.localName? (c : Component) : Option String :=
  match c.kind with
  | .handwritten binding => some binding.localName
  | .element _ => none

/-- What the section of a component binds. -/
def Component.bindings (c : Component) : List String := c.localName?.toList ++ [c.name]

namespace ComponentModule

/-- The names of the imports that replace components. -/
def localNames (m : ComponentModule) : List String := m.components.filterMap (·.localName?)

/-- What a module binds at its top, in the order of the text. -/
def bindings (m : ComponentModule) : List String :=
  preambleNames ++ (m.components.flatMap (·.bindings) ++ m.dispatchers.map (·.name))

end ComponentModule

namespace Script

/-! ## Reading -/

/-- What a line that binds a name begins with. -/
def bindingStarts : List (List Char) :=
  [['i', 'm', 'p', 'o', 'r', 't', ' '],
   ['c', 'o', 'n', 's', 't', ' '],
   ['e', 'x', 'p', 'o', 'r', 't', ' ', 'c', 'o', 'n', 's', 't', ' ']]

/-- The first word in a text. -/
def firstWord (s : List Char) : Option String :=
  (readWord (s.dropWhile fun c => !Text.isAsciiIdContinue c)).map (·.1)

def readBindingChars (line : List Char) : Option String :=
  (bindingStarts.findSome? (·.isPrefixOf? line)).bind firstWord

/-- The name a line binds. -/
def readBinding (line : String) : Option String := readBindingChars line.toList

theorem readBinding_ofList (line : List Char) :
    readBinding (String.ofList line) = readBindingChars line := by
  rw [readBinding, String.toList_ofList]

theorem readBinding_ofList_append (a : List Char) (x : String) :
    readBinding (String.ofList a ++ x) = readBindingChars (a ++ x.toList) := by
  rw [readBinding, String.toList_append, String.toList_ofList]

theorem firstWord_append {name : String} (h : isWord name = true) {c : Char}
    (hc : Text.isAsciiIdContinue c = false) (rest : List Char) :
    firstWord (name.toList ++ c :: rest) = some name := by
  obtain ⟨d, s, hname⟩ := List.exists_cons_of_ne_nil (ne_nil_of_isWord h)
  have hd : Text.isAsciiIdContinue d = true := all_of_isWord h d (hname ▸ List.mem_cons_self)
  have hdrop : (name.toList ++ c :: rest).dropWhile (fun c => !Text.isAsciiIdContinue c) =
      name.toList ++ c :: rest := by
    rw [hname, List.cons_append, List.dropWhile_cons_of_neg (by simp [hd])]
  rw [firstWord, hdrop, readWord_append h hc]
  rfl

theorem findSome?_bindingStarts {start : List Char} (h : start ∈ bindingStarts)
    (rest : List Char) : bindingStarts.findSome? (·.isPrefixOf? (start ++ rest)) = some rest := by
  simp only [bindingStarts, List.mem_cons, List.not_mem_nil, or_false] at h
  rcases h with rfl | rfl | rfl
  all_goals rfl

/-- A name between one of the starts and a blank. -/
theorem readBinding_start {start sep : List Char} (h : start ∈ bindingStarts) {name : String}
    (hname : isWord name = true) (x : String) :
    readBinding (String.ofList start ++ (name ++ (String.ofList (' ' :: sep) ++ x))) =
      some name := by
  have hline : (String.ofList start ++ (name ++ (String.ofList (' ' :: sep) ++ x))).toList =
      start ++ (name.toList ++ ' ' :: (sep ++ x.toList)) := by
    simp
  rw [readBinding, hline, readBindingChars, findSome?_bindingStarts h, Option.bind_some,
    firstWord_append hname (by decide)]

theorem readBinding_importLine {b : Binding} (h : isWord b.localName = true) :
    readBinding (importLine b) = some b.localName := by
  unfold importLine
  simp only [String.append_assoc]
  exact readBinding_start (by decide) h _

theorem readBinding_declareLine {keyword : List Char} (hkeyword : keyword ∈ bindingStarts)
    {name : String} (h : isWord name = true) (extensions : List String) :
    readBinding (declareLine (String.ofList keyword) name extensions) = some name := by
  unfold declareLine
  simp only [String.append_assoc]
  exact readBinding_start hkeyword h _

/-! ## Lines that bind nothing -/

theorem readBinding_eq_none {line : String}
    (h : ∀ start ∈ bindingStarts, ¬start <+: line.toList) : readBinding line = none := by
  have hstarts : bindingStarts.findSome? (·.isPrefixOf? line.toList) = none := by
    refine List.findSome?_eq_none_iff.2 fun start hstart => ?_
    rw [Option.eq_none_iff_forall_ne_some]
    intro rest hrest
    exact h start hstart ⟨rest, List.isPrefixOf?_eq_some_iff_append_eq.1 hrest⟩
  rw [readBinding, readBindingChars, hstarts, Option.bind_none]

theorem readBinding_append {a : List Char} (h : ∀ start ∈ bindingStarts, Text.Departs start a)
    (x : String) : readBinding (String.ofList a ++ x) = none := by
  refine readBinding_eq_none fun start hstart => ?_
  rw [String.toList_append, String.toList_ofList]
  exact Text.not_prefix_append (h start hstart) _

/-- A keyword ends at its blank. -/
theorem exists_keyword {start : List Char} (h : start ∈ bindingStarts) :
    ∃ keyword rest, start = keyword ++ ' ' :: rest ∧
      ∀ c ∈ keyword, Text.isAsciiIdContinue c = true := by
  simp only [bindingStarts, List.mem_cons, List.not_mem_nil, or_false] at h
  rcases h with rfl | rfl | rfl
  · exact ⟨['i', 'm', 'p', 'o', 'r', 't'], [], rfl, List.all_eq_true.1 (by decide)⟩
  · exact ⟨['c', 'o', 'n', 's', 't'], [], rfl, List.all_eq_true.1 (by decide)⟩
  · exact ⟨['e', 'x', 'p', 'o', 'r', 't'], ['c', 'o', 'n', 's', 't', ' '], rfl,
      List.all_eq_true.1 (by decide)⟩

theorem readBinding_word {name : String} (h : isWord name = true) (x : List Char) :
    readBinding (name ++ String.ofList ('.' :: x)) = none := by
  refine readBinding_eq_none fun start hstart => ?_
  obtain ⟨keyword, rest, rfl, hkeyword⟩ := exists_keyword hstart
  rw [String.toList_append, String.toList_ofList]
  exact not_prefix_word h hkeyword rest x

theorem readBinding_blank : readBinding "" = none := readBinding_ofList []

theorem readBinding_brace : readBinding "\x7d;" = none :=
  readBinding_ofList ['\x7d', ';']

theorem readBinding_exportLine (name : String) : readBinding (exportLine name) = none := by
  unfold exportLine
  rw [String.append_assoc]
  exact readBinding_append (by decide) _

/-- What stands inside of a function or a list is indented. -/
theorem readBinding_indented (x : String) : readBinding ("  " ++ x) = none :=
  readBinding_append (by decide) x

end Script

open Script

/-! ## The lines of a section -/

/-- The lines are read one by one, each as the list it is written as. -/
theorem filterMap_helperLines :
    helperLines.filterMap readBinding = ["propsHelper", "contextHelper"] := by
  unfold helperLines
  repeat first
    | refine Eq.trans (List.filterMap_cons_none (readBinding_ofList _)) ?_
    | refine Eq.trans (List.filterMap_cons_some (readBinding_ofList _))
        (congrArg (List.cons _) ?_)
  rfl

theorem filterMap_preambleLines (contextModule : String) :
    (preambleLines contextModule).filterMap readBinding = preambleNames := by
  have hreact : readBinding "import React from 'react';" = some "React" := readBinding_ofList _
  have hpropTypes : readBinding "import PropTypes from 'prop-types';" = some "PropTypes" :=
    readBinding_ofList _
  have hcontext : readBinding
      ("import \x7b CONTEXT_KEY \x7d from " ++ literal contextModule ++ ";") =
        some "CONTEXT_KEY" := by
    rw [String.append_assoc]
    exact readBinding_ofList_append _ _
  rw [preambleLines, List.filterMap_append, filterMap_helperLines,
    List.filterMap_cons_some hreact, List.filterMap_cons_some hpropTypes,
    List.filterMap_cons_some hcontext, List.filterMap_cons_none readBinding_blank]
  rfl

theorem readBinding_of_mem_bodyLines {extensions : List String} {element line : String}
    (h : line ∈ bodyLines extensions element) : readBinding line = none := by
  rcases mem_bodyLines h with ⟨extension, rfl⟩ | rfl | rfl
  · unfold guardLine
    rw [String.append_assoc]
    exact readBinding_append (by decide) _
  · unfold renderLine
    rw [String.append_assoc]
    exact readBinding_append (by decide) _
  · exact readBinding_brace

theorem readBinding_of_mem_blockLines {opening line : String} {items : List String}
    (hopening : readBinding opening = none) (hitems : ∀ item ∈ items, readBinding item = none)
    (h : line ∈ blockLines opening items) : readBinding line = none := by
  rcases mem_blockLines h with rfl | rfl | h | rfl
  · exact readBinding_blank
  · exact hopening
  · exact hitems line h
  · exact readBinding_brace

theorem readBinding_propTypeLine (p : PropType) : readBinding (propTypeLine p) = none := by
  unfold propTypeLine
  simp only [String.append_assoc]
  exact readBinding_indented _

theorem readBinding_defaultPropLine (p : DefaultProp) : readBinding (defaultPropLine p) = none := by
  unfold defaultPropLine
  simp only [String.append_assoc]
  exact readBinding_indented _

theorem readBinding_of_mem_elementLines {name line : String} (hname : isWord name = true)
    {propTypes : List PropType} {defaultProps : List DefaultProp}
    (h : line ∈ elementLines name propTypes defaultProps) : readBinding line = none := by
  rw [elementLines, propTypesLines_eq, defaultPropsLines_eq, contextTypesLines_eq,
    List.mem_append, List.mem_append, List.mem_append] at h
  rcases h with h | h | h | h
  · refine readBinding_of_mem_blockLines (readBinding_word hname _) ?_ h
    exact List.forall_mem_map.2 fun p _ => readBinding_propTypeLine p
  · refine readBinding_of_mem_blockLines (readBinding_word hname _) ?_ h
    exact List.forall_mem_map.2 fun p _ => readBinding_defaultPropLine p
  · exact readBinding_of_mem_blockLines (readBinding_word hname _) (by decide +kernel) h
  · simp only [List.mem_cons, List.not_mem_nil, or_false] at h
    rcases h with rfl | rfl
    · exact readBinding_blank
    · exact readBinding_exportLine name

theorem Component.filterMap_lines {c : Component} (hc : c.IsPrintable) :
    c.lines.filterMap readBinding = c.bindings := by
  have hkind := hc.kind
  unfold bindings localName?
  cases hk : c.kind with
  | handwritten b =>
    rw [hk] at hkind
    have hbody : (bodyLines c.extensions b.localName).filterMap readBinding = [] :=
      List.filterMap_eq_nil_iff.2 fun _ => readBinding_of_mem_bodyLines
    rw [lines_of_handwritten hk, List.filterMap_cons_some (readBinding_importLine hkind),
      List.filterMap_cons_some (readBinding_declareLine (by decide) hc.name _), hbody]
    rfl
  | element tag =>
    have hrest : (bodyLines c.extensions tag ++
        elementLines c.name c.propTypes c.defaultProps).filterMap readBinding = [] := by
      refine List.filterMap_eq_nil_iff.2 (List.forall_mem_append.2 ⟨?_, ?_⟩)
      · exact fun _ => readBinding_of_mem_bodyLines
      · exact fun _ => readBinding_of_mem_elementLines hc.name
    rw [lines_of_element hk,
      List.filterMap_cons_some (readBinding_declareLine (by decide) hc.name _), hrest]
    rfl

theorem Dispatcher.filterMap_lines {d : Dispatcher} (hname : isWord d.name = true) :
    d.lines.filterMap readBinding = [d.name] := by
  have hopening : readBinding (openingLine d) = some d.name := by
    unfold openingLine
    rw [String.append_assoc, ← String.append_empty (s := " = (props) => \x7b")]
    exact readBinding_start (by decide) hname ""
  have hvariants : (d.variants.map variantLine).filterMap readBinding = [] := by
    refine List.filterMap_eq_nil_iff.2 (List.forall_mem_map.2 fun v _ => ?_)
    unfold variantLine
    simp only [String.append_assoc]
    exact readBinding_append (by decide) _
  have haccept : readBinding (acceptLine d) = none := by
    unfold acceptLine
    rw [String.append_assoc]
    exact readBinding_append (by decide) _
  have hclosing : (closingLines d).filterMap readBinding = [] := by
    refine List.filterMap_eq_nil_iff.2 fun line hline => ?_
    simp only [closingLines, List.mem_cons, List.not_mem_nil, or_false] at hline
    rcases hline with rfl | rfl | rfl | rfl | rfl | rfl | rfl | rfl
    · exact readBinding_ofList _
    · exact readBinding_brace
    · exact readBinding_blank
    · exact readBinding_word hname _
    · exact haccept
    · exact readBinding_brace
    · exact readBinding_blank
    · exact readBinding_exportLine d.name
  rw [Script.lines_eq, List.filterMap_cons_some hopening, List.filterMap_append, hvariants,
    hclosing]
  rfl

theorem ComponentModule.filterMap_lines {m : ComponentModule} (hm : m.IsPrintable) :
    m.lines.filterMap readBinding = m.bindings := by
  have hcomponents : (m.components.flatMap fun c => ("" :: c.lines).filterMap readBinding) =
      m.components.flatMap (·.bindings) := by
    refine List.flatMap_congr fun c hc => ?_
    rw [List.filterMap_cons_none readBinding_blank, Component.filterMap_lines (hm.components c hc)]
  have hdispatchers : (m.dispatchers.flatMap fun d => ("" :: d.lines).filterMap readBinding) =
      m.dispatchers.flatMap fun d => [d.name] := by
    refine List.flatMap_congr fun d hd => ?_
    rw [List.filterMap_cons_none readBinding_blank,
      Dispatcher.filterMap_lines (hm.dispatchers d hd).name]
  rw [lines_eq, bindings, List.filterMap_append, List.filterMap_append, filterMap_preambleLines,
    List.filterMap_flatMap, List.filterMap_flatMap, hcomponents, hdispatchers, List.map_eq_flatMap]

/-- What the lines of the text bind, in order. -/
theorem ComponentModule.filterMap_readBinding_text {m : ComponentModule} (hm : m.IsPrintable) :
    (Text.lines m.text).filterMap readBinding = m.bindings := by
  rw [lines_text hm, filterMap_lines hm]

end AmpComponents
