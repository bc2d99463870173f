/-
The exports of a module's text.

A line that begins with `export ` exports one name: where a component written by hand is declared,
or by a list of one name.  `readExport` reads the name from the line, without looking at the
module.  `isExported_of_generateWith` says that these lines are one for each name the module
exports, in order, whatever stands in the texts of the module, and that a dispatcher renders only
what an earlier line exports.

Every section of the text has one such line, and no other line of it begins so.  Most lines begin
with a text that is fixed and differs; a line that begins with a name may begin with `export`, but
then a dot follows.
-/
import AmpComponents.Proofs.Dispatch
import AmpComponents.Proofs.Emission.Lines
import AmpComponents.Proofs.Text.Spans

namespace AmpComponents

open Text (literal)

namespace Script

/-! ## Reading -/

def exportStart : List Char := ['e', 'x', 'p', 'o', 'r', 't', ' ']

def isExport (line : String) : Bool := exportStart.isPrefixOf line.toList

/-- The word at the start of a text, and what follows it. -/
def readWord (s : List Char) : Option (String × List Char) :=
  if s.takeWhile Text.isAsciiIdContinue = [] then none
  else some (String.ofList (s.takeWhile Text.isAsciiIdContinue),
    s.dropWhile Text.isAsciiIdContinue)

def declaredSign : List Char := [' ', '=', ' ']

def listStart : List Char := ['\x7b', ' ']

def listEnd : List Char := [' ', '\x7d', ';']

/-- The name a line exports, which it declares or lists. -/
def readExport (line : String) : Option String := do
  let rest ← exportStart.isPrefixOf? line.toList
  match functionStart.isPrefixOf? rest with
  | some rest =>
    let (name, rest) ← readWord rest
    if declaredSign.isPrefixOf rest then some name else none
  | none =>
    let rest ← listStart.isPrefixOf? rest
    let (name, rest) ← readWord rest
    if rest = listEnd then some name else none

theorem functionStart_eq : functionStart = ['c', 'o', 'n', 's', 't', ' '] := String.toList_ofList

theorem readWord_append {name : String} (h : isWord name = true) {c : Char}
    (hc : Text.isAsciiIdContinue c = false) (rest : List Char) :
    readWord (name.toList ++ c :: rest) = some (name, c :: rest) := by
  rw [readWord, takeWhile_word h hc, dropWhile_word h hc, if_neg (ne_nil_of_isWord h),
    String.ofList_toList]

theorem toList_exportLine (name : String) :
    (exportLine name).toList = exportStart ++ (listStart ++ (name.toList ++ listEnd)) := by
  have hstart : "export \x7b ".toList = exportStart ++ listStart := String.toList_ofList
  have hend : " \x7d;".toList = listEnd := String.toList_ofList
  unfold exportLine
  rw [String.toList_append, String.toList_append, hstart, hend, List.append_assoc,
    List.append_assoc]

theorem toList_declareLine_export (name : String) (extensions : List String) :
    ∃ rest, (declareLine "export const " name extensions).toList =
      exportStart ++ (functionStart ++ (name.toList ++ (declaredSign ++ rest))) := by
  have hstart : "export const ".toList = exportStart ++ ['c', 'o', 'n', 's', 't', ' '] :=
    String.toList_ofList
  have hsign : " = ".toList = declaredSign := String.toList_ofList
  refine ⟨(signature extensions ++ " => \x7b").toList, ?_⟩
  unfold declareLine
  simp only [String.toList_append, hstart, hsign, functionStart_eq, List.append_assoc]

theorem readExport_exportLine {name : String} (h : isWord name = true) :
    readExport (exportLine name) = some name := by
  have hspace : Text.isAsciiIdContinue ' ' = false := by decide
  have hconst : functionStart.isPrefixOf? (listStart ++ (name.toList ++ listEnd)) = none := by
    rw [functionStart_eq]
    exact isPrefixOf?_eq_none (by decide) _
  rw [readExport, toList_exportLine, isPrefixOf?_append]
  simp only [bind, Option.bind, hconst, isPrefixOf?_append]
  rw [listEnd, readWord_append h hspace]
  exact if_pos rfl

theorem readExport_declareLine {name : String} (h : isWord name = true)
    (extensions : List String) :
    readExport (declareLine "export const " name extensions) = some name := by
  have hspace : Text.isAsciiIdContinue ' ' = false := by decide
  obtain ⟨rest, hline⟩ := toList_declareLine_export name extensions
  have hprefix : declaredSign.isPrefixOf (declaredSign ++ rest) = true := by simp
  have hword : readWord (name.toList ++ (declaredSign ++ rest)) =
      some (name, declaredSign ++ rest) := readWord_append h hspace _
  rw [readExport, hline, isPrefixOf?_append]
  simp only [bind, Option.bind, isPrefixOf?_append, hword]
  exact if_pos hprefix

theorem isExport_exportLine (name : String) : isExport (exportLine name) = true := by
  rw [isExport, toList_exportLine, List.isPrefixOf_iff_prefix]
  exact List.prefix_append ..

theorem isExport_declareLine (name : String) (extensions : List String) :
    isExport (declareLine "export const " name extensions) = true := by
  obtain ⟨rest, hline⟩ := toList_declareLine_export name extensions
  rw [isExport, hline, List.isPrefixOf_iff_prefix]
  exact List.prefix_append ..

/-! ## Lines that neither export nor branch -/

/-- Whether a line neither exports nor branches. -/
def IsPlain (line : String) : Prop := isExport line = false ∧ isBranch line = false

/-- What a branch begins with, as far as it takes to tell it from other lines. -/
def branchHead : List Char := [' ', ' ', 'i', 'f', ' ', '(', 'p']

theorem branchHead_begins : branchHead <+: branchStart := by
  have hstart : branchStart = branchHead ++
      ['r', 'o', 'p', 's', '.', 's', 'p', 'e', 'c', 'N', 'a', 'm', 'e', ' ', '=', '=', '=', ' '] :=
    String.toList_ofList
  rw [hstart]
  exact List.prefix_append _ _

theorem isExport_eq_false {line : String} (h : ¬exportStart <+: line.toList) :
    isExport line = false := by
  rw [isExport, Bool.eq_false_iff, Ne, List.isPrefixOf_iff_prefix]
  exact h

theorem isBranch_eq_false_of_head {line : String} (h : ¬branchHead <+: line.toList) :
    isBranch line = false := by
  rw [isBranch, Bool.eq_false_iff, Ne, List.isPrefixOf_iff_prefix]
  exact fun hprefix => h (branchHead_begins.trans hprefix)

theorem isPlain_ofList {line : List Char} (h : ¬exportStart <+: line ∧ ¬branchHead <+: line) :
    IsPlain (String.ofList line) := by
  refine ⟨isExport_eq_false ?_, isBranch_eq_false_of_head ?_⟩
  · rw [String.toList_ofList]
    exact h.1
  · rw [String.toList_ofList]
    exact h.2

section Departing

variable {a : List Char} (x : String)

theorem isExport_append (h : Text.Departs exportStart a) :
    isExport (String.ofList a ++ x) = false := by
  apply isExport_eq_false
  rw [String.toList_append, String.toList_ofList]
  exact Text.not_prefix_append h _

theorem isBranch_append (h : Text.Departs branchHead a) :
    isBranch (String.ofList a ++ x) = false := by
  apply isBranch_eq_false_of_head
  rw [String.toList_append, String.toList_ofList]
  exact Text.not_prefix_append h _

theorem isPlain_append (h : Text.Departs exportStart a ∧ Text.Departs branchHead a) :
    IsPlain (String.ofList a ++ x) :=
  ⟨isExport_append x h.1, isBranch_append x h.2⟩

end Departing

/-- A name may be a keyword: a dot follows it where the keyword has a blank. -/
theorem not_prefix_word {name : String} (h : isWord name = true) {keyword : List Char}
    (hkeyword : ∀ c ∈ keyword, Text.isAsciiIdContinue c = true) (rest x : List Char) :
    ¬keyword ++ ' ' :: rest <+: name.toList ++ '.' :: x := by
  rintro ⟨s, hs⟩
  rw [List.append_assoc, List.cons_append] at hs
  obtain ⟨-, hends⟩ := Text.span_append_inj hkeyword (all_of_isWord h)
    (Text.ends_cons (by decide) (rest ++ s)) (Text.ends_cons (by decide) x) hs
  cases hends

theorem isPlain_word {name : String} (h : isWord name = true) (x : List Char) :
    IsPlain (name ++ String.ofList ('.' :: x)) := by
  have hline : (name ++ String.ofList ('.' :: x)).toList = name.toList ++ '.' :: x := by
    rw [String.toList_append, String.toList_ofList]
  have hkeyword : ∀ c ∈ ['e', 'x', 'p', 'o', 'r', 't'], Text.isAsciiIdContinue c = true :=
    List.all_eq_true.1 (by decide)
  refine ⟨isExport_eq_false ?_, isBranch_eq_false (hline ▸ isPrefixOf?_word h rfl _)⟩
  rw [hline]
  exact not_prefix_word h hkeyword [] x

theorem isPlain_blank : IsPlain "" := isPlain_ofList (by decide)

theorem isPlain_brace : IsPlain "\x7d;" := isPlain_ofList (by decide)

theorem isExport_variantLine (v : Variant) : isExport (variantLine v) = false := by
  unfold variantLine
  simp only [String.append_assoc]
  exact isExport_append _ (by decide)

theorem isBranch_declareLine (name : String) (extensions : List String) :
    isBranch (declareLine "export const " name extensions) = false := by
  unfold declareLine
  simp only [String.append_assoc]
  exact isBranch_append _ (by decide)

theorem isBranch_exportLine (name : String) : isBranch (exportLine name) = false := by
  unfold exportLine
  rw [String.append_assoc]
  exact isBranch_append _ (by decide)

theorem filter_isExport_of_isPlain {lines : List String} (h : ∀ line ∈ lines, IsPlain line) :
    lines.filter isExport = [] := by
  rw [List.filter_eq_nil_iff]
  intro line hline
  rw [(h line hline).1]
  exact Bool.false_ne_true

end Script

open Script

/-! ## The lines of a section -/

theorem isPlain_of_mem_preambleLines {contextModule line : String}
    (h : line ∈ preambleLines contextModule) : IsPlain line := by
  have hhelpers : ∀ line ∈ helperLines, IsPlain line := by
    unfold helperLines
    repeat refine List.forall_mem_cons.2 ⟨isPlain_ofList (by decide), ?_⟩
    exact List.forall_mem_nil _
  simp only [preambleLines, List.cons_append, List.nil_append, List.mem_cons] at h
  rcases h with rfl | rfl | rfl | rfl | h
  · exact isPlain_ofList (by decide)
  · exact isPlain_ofList (by decide)
  · rw [String.append_assoc]
    exact isPlain_append _ (by decide)
  · exact isPlain_blank
  · exact hhelpers line h

theorem isPlain_importLine (b : Binding) : IsPlain (importLine b) := by
  unfold importLine
  simp only [String.append_assoc]
  exact isPlain_append _ (by decide)

theorem isPlain_declareLine (name : String) (extensions : List String) :
    IsPlain (declareLine "const " name extensions) := by
  unfold declareLine
  simp only [String.append_assoc]
  exact isPlain_append _ (by decide)

theorem isPlain_of_mem_bodyLines {extensions : List String} {element line : String}
    (h : line ∈ bodyLines extensions element) : IsPlain line := by
  rcases mem_bodyLines h with ⟨extension, rfl⟩ | rfl | rfl
  · unfold guardLine
    rw [String.append_assoc]
    exact isPlain_append _ (by decide)
  · unfold renderLine
    rw [String.append_assoc]
    exact isPlain_append _ (by decide)
  · exact isPlain_brace

/-- A property opens with the quote of its name, where a branch has a letter. -/
theorem isPlain_property (name rest : String) : IsPlain ("  " ++ (literal name ++ rest)) := by
  have hquote : "  " ++ (literal name ++ rest) = "  \x27" ++
      String.ofList (name.toList.flatMap Text.literalChar ++ '\x27' :: rest.toList) := by
    rw [← String.toList_inj]
    simp [literal, Text.literalChars]
  rw [hquote]
  exact isPlain_append _ (by decide)

theorem isPlain_propTypeLine (p : PropType) : IsPlain (propTypeLine p) := by
  unfold propTypeLine
  simp only [String.append_assoc]
  exact isPlain_property _ _

theorem isPlain_defaultPropLine (p : DefaultProp) : IsPlain (defaultPropLine p) := by
  unfold defaultPropLine
  simp only [String.append_assoc]
  exact isPlain_property _ _

theorem isPlain_of_mem_blockLines {opening line : String} {items : List String}
    (hopening : IsPlain opening) (hitems : ∀ item ∈ items, IsPlain item)
    (h : line ∈ blockLines opening items) : IsPlain line := by
  rcases mem_blockLines h with rfl | rfl | h | rfl
  · exact isPlain_blank
  · exact hopening
  · exact hitems line h
  · exact isPlain_brace

/-- What stands behind the body of an element's component, the export apart. -/
theorem isPlain_of_mem_blocks {name line : String} (hname : isWord name = true)
    {propTypes : List PropType} {defaultProps : List DefaultProp}
    (h : line ∈ propTypesLines name propTypes ++ (defaultPropsLines name defaultProps ++
      (contextTypesLines name ++ [""]))) : IsPlain line := by
  rw [propTypesLines_eq, defaultPropsLines_eq, contextTypesLines_eq, List.mem_append,
    List.mem_append, List.mem_append, List.mem_singleton] at h
  rcases h with h | h | h | rfl
  · refine isPlain_of_mem_blockLines (isPlain_word hname _) ?_ h
    exact List.forall_mem_map.2 fun p _ => isPlain_propTypeLine p
  · refine isPlain_of_mem_blockLines (isPlain_word hname _) ?_ h
    exact List.forall_mem_map.2 fun p _ => isPlain_defaultPropLine p
  · refine isPlain_of_mem_blockLines (isPlain_word hname _) ?_ h
    intro line hline
    simp only [contextTypeLines, List.mem_cons, List.not_mem_nil, or_false] at hline
    rcases hline with rfl | rfl | rfl
    all_goals exact isPlain_ofList (by decide)
  · exact isPlain_blank

/-- The line that exports a component. -/
def Component.exporting (c : Component) : String :=
  match c.kind with
  | .element _ => exportLine c.name
  | .handwritten _ => declareLine "export const " c.name c.extensions

/-- One line of a component exports it, and the others are plain. -/
theorem Component.exists_exporting {c : Component} (hname : isWord c.name = true) :
    ∃ before after, c.lines = before ++ c.exporting :: after ∧
      ∀ line ∈ before ++ after, IsPlain line := by
  cases hk : c.kind with
  | handwritten b =>
    refine ⟨[importLine b], bodyLines c.extensions b.localName, ?_, ?_⟩
    · rw [lines_of_handwritten hk, exporting, hk]
      rfl
    · intro line hline
      rcases List.mem_cons.1 hline with rfl | hbody
      · exact isPlain_importLine b
      · exact isPlain_of_mem_bodyLines hbody
  | element tag =>
    refine ⟨declareLine "const " c.name c.extensions :: (bodyLines c.extensions tag ++
      (propTypesLines c.name c.propTypes ++ (defaultPropsLines c.name c.defaultProps ++
        (contextTypesLines c.name ++ [""])))), [], ?_, ?_⟩
    · rw [lines_of_element hk, exporting, hk, elementLines]
      simp only [List.cons_append, List.nil_append, List.append_assoc]
    · intro line hline
      rw [List.append_nil, List.mem_cons, List.mem_append] at hline
      rcases hline with rfl | hbody | hblocks
      · exact isPlain_declareLine _ _
      · exact isPlain_of_mem_bodyLines hbody
      · exact isPlain_of_mem_blocks hname hblocks

theorem Component.isExport_exporting (c : Component) : isExport c.exporting = true := by
  unfold exporting
  split
  · exact isExport_exportLine _
  · exact isExport_declareLine _ _

theorem Component.isBranch_exporting (c : Component) : isBranch c.exporting = false := by
  unfold exporting
  split
  · exact isBranch_exportLine _
  · exact isBranch_declareLine _ _

theorem Component.readExport_exporting {c : Component} (hname : isWord c.name = true) :
    readExport c.exporting = some c.name := by
  unfold exporting
  split
  · exact readExport_exportLine hname
  · exact readExport_declareLine hname _

theorem Component.filter_isExport_lines {c : Component} (hname : isWord c.name = true) :
    c.lines.filter isExport = [c.exporting] := by
  obtain ⟨before, after, hlines, hplain⟩ := exists_exporting hname
  rw [List.forall_mem_append] at hplain
  rw [hlines, List.filter_append, List.filter_cons_of_pos c.isExport_exporting,
    filter_isExport_of_isPlain hplain.1, filter_isExport_of_isPlain hplain.2, List.nil_append]

theorem Component.isBranch_of_mem_lines {c : Component} (hname : isWord c.name = true)
    {line : String} (h : line ∈ c.lines) : isBranch line = false := by
  obtain ⟨before, after, hlines, hplain⟩ := exists_exporting hname
  rw [List.forall_mem_append] at hplain
  rw [hlines, List.mem_append, List.mem_cons] at h
  rcases h with h | rfl | h
  · exact (hplain.1 line h).2
  · exact c.isBranch_exporting
  · exact (hplain.2 line h).2

/-- A dispatcher is exported by its last line. -/
theorem Dispatcher.exists_closingLines {d : Dispatcher} (hname : isWord d.name = true) :
    ∃ before, closingLines d = before ++ [exportLine d.name] ∧ ∀ line ∈ before, IsPlain line := by
  have haccept : IsPlain (acceptLine d) := by
    unfold acceptLine
    rw [String.append_assoc]
    exact isPlain_append _ (by decide)
  have hpropTypes : IsPlain (d.name ++ ".propTypes = \x7b") :=
    isPlain_word hname _
  refine ⟨["  return null;", "\x7d;", "", d.name ++ ".propTypes = \x7b", acceptLine d, "\x7d;", ""],
    rfl, ?_⟩
  intro line hline
  simp only [List.mem_cons, List.not_mem_nil, or_false] at hline
  rcases hline with rfl | rfl | rfl | rfl | rfl | rfl | rfl
  · exact isPlain_ofList (by decide)
  · exact isPlain_brace
  · exact isPlain_blank
  · exact hpropTypes
  · exact haccept
  · exact isPlain_brace
  · exact isPlain_blank

theorem Dispatcher.filter_isExport_lines {d : Dispatcher} (hname : isWord d.name = true) :
    d.lines.filter isExport = [exportLine d.name] := by
  have hopening : IsPlain (openingLine d) := by
    unfold openingLine
    rw [String.append_assoc]
    exact isPlain_append _ (by decide)
  have hvariants : (d.variants.map variantLine).filter isExport = [] := by
    rw [List.filter_eq_nil_iff, List.forall_mem_map]
    intro v _
    simp [isExport_variantLine]
  obtain ⟨before, hclosing, hplain⟩ := exists_closingLines hname
  rw [lines_eq, List.filter_cons_of_neg (by simp [hopening.1]), List.filter_append, hvariants,
    hclosing, List.filter_append, filter_isExport_of_isPlain hplain,
    List.filter_cons_of_pos (isExport_exportLine _)]
  rfl

/-! ## Modules -/

/-- The export lines of a module's text are those of its names, and what a branch renders was
exported before. -/
structure ComponentModule.IsExported (m : ComponentModule) : Prop where
  lines : (Text.lines m.text).filter isExport =
    m.components.map (·.exporting) ++ m.dispatchers.map (exportLine ·.name)
  names : ((Text.lines m.text).filter isExport).map readExport = m.exports.map some
  /-- The branches are those of the dispatchers, in order. -/
  branches : (Text.lines m.text).filter isBranch =
    m.dispatchers.flatMap (·.variants.map variantLine)
  renders : ∀ before line after, Text.lines m.text = before ++ line :: after →
    isBranch line = true → ∃ specName element, readBranch line = some (specName, element) ∧
      ∃ exporting ∈ before, isExport exporting = true ∧ readExport exporting = some element

section Module

variable {m : ComponentModule} (hcomponents : ∀ c ∈ m.components, isWord c.name = true)
  (hdispatchers : ∀ d ∈ m.dispatchers, isWord d.name = true)

include hcomponents hdispatchers

theorem filter_isExport_lines : m.lines.filter isExport =
    m.components.map (·.exporting) ++ m.dispatchers.map (exportLine ·.name) := by
  have hpreamble : (preambleLines m.contextModule).filter isExport = [] :=
    filter_isExport_of_isPlain fun _ => isPlain_of_mem_preambleLines
  have hblank : ¬isExport "" = true := by simp [isPlain_blank.1]
  have hfirst : (m.components.flatMap fun c => ("" :: c.lines).filter isExport) =
      m.components.flatMap fun c => [c.exporting] := by
    refine List.flatMap_congr fun c hc => ?_
    rw [List.filter_cons_of_neg hblank, Component.filter_isExport_lines (hcomponents c hc)]
  have hsecond : (m.dispatchers.flatMap fun d => ("" :: d.lines).filter isExport) =
      m.dispatchers.flatMap fun d => [exportLine d.name] := by
    refine List.flatMap_congr fun d hd => ?_
    rw [List.filter_cons_of_neg hblank, Dispatcher.filter_isExport_lines (hdispatchers d hd)]
  rw [ComponentModule.lines_eq, List.filter_append, List.filter_append, hpreamble,
    List.filter_flatMap, List.filter_flatMap, hfirst, hsecond, List.nil_append,
    List.map_eq_flatMap, List.map_eq_flatMap]

theorem map_readExport_exporting :
    (m.components.map (·.exporting) ++ m.dispatchers.map (exportLine ·.name)).map readExport =
      m.exports.map some := by
  have hfirst : (m.components.map (·.exporting)).map readExport =
      (m.components.map (·.name)).map some := by
    rw [List.map_map, List.map_map]
    exact List.map_congr_left fun c hc => Component.readExport_exporting (hcomponents c hc)
  have hsecond : (m.dispatchers.map (exportLine ·.name)).map readExport =
      (m.dispatchers.map (·.name)).map some := by
    rw [List.map_map, List.map_map]
    exact List.map_congr_left fun d hd => readExport_exportLine (hdispatchers d hd)
  rw [ComponentModule.exports, List.map_append, List.map_append, hfirst, hsecond]

omit hdispatchers in
/-- No line in front of the dispatchers is a branch. -/
theorem isBranch_eq_false_of_mem {line : String} (h : line ∈ preambleLines m.contextModule ++
    m.components.flatMap fun c => "" :: c.lines) : isBranch line = false := by
  rw [List.mem_append, List.mem_flatMap] at h
  rcases h with h | ⟨c, hc, h⟩
  · exact (isPlain_of_mem_preambleLines h).2
  · rcases List.mem_cons.1 h with rfl | h
    · exact isPlain_blank.2
    · exact Component.isBranch_of_mem_lines (hcomponents c hc) h

omit hcomponents in
theorem filter_isBranch_dispatchers :
    (m.dispatchers.flatMap fun d => "" :: d.lines).filter isBranch =
      m.dispatchers.flatMap (·.variants.map variantLine) := by
  have hblank : ¬isBranch "" = true := by simp [isPlain_blank.2]
  rw [List.filter_flatMap]
  refine List.flatMap_congr fun d hd => ?_
  rw [List.filter_cons_of_neg hblank, filter_isBranch_lines (hdispatchers d hd)]

theorem filter_isBranch_module : m.lines.filter isBranch =
    m.dispatchers.flatMap (·.variants.map variantLine) := by
  have hfront : (preambleLines m.contextModule ++
      m.components.flatMap fun c => "" :: c.lines).filter isBranch = [] := by
    rw [List.filter_eq_nil_iff]
    intro line hline
    simp [isBranch_eq_false_of_mem hcomponents hline]
  rw [ComponentModule.lines_eq, ← List.append_assoc, List.filter_append, hfront,
    filter_isBranch_dispatchers hdispatchers, List.nil_append]

/-- A branch stands behind all components, with the lines that export them. -/
theorem exporting_mem_of_branch {before after : List String} {line : String}
    (h : m.lines = before ++ line :: after) (hbranch : isBranch line = true) :
    (∃ d ∈ m.dispatchers, ∃ v ∈ d.variants, line = variantLine v) ∧
      ∀ c ∈ m.components, c.exporting ∈ before := by
  have hline : line ∈ m.lines.filter isBranch := by
    rw [List.mem_filter, h]
    exact ⟨by simp, hbranch⟩
  rw [filter_isBranch_module hcomponents hdispatchers, List.mem_flatMap] at hline
  obtain ⟨d, hd, hline⟩ := hline
  obtain ⟨v, hv, rfl⟩ := List.mem_map.1 hline
  refine ⟨⟨d, hd, v, hv, rfl⟩, fun c hc => ?_⟩
  have hexporting : c.exporting ∈ preambleLines m.contextModule ++
      m.components.flatMap fun c => "" :: c.lines := by
    have hmem : c.exporting ∈ c.lines.filter isExport := by
      rw [Component.filter_isExport_lines (hcomponents c hc)]
      exact List.mem_singleton_self _
    exact List.mem_append_right _ (List.mem_flatMap_of_mem hc
      (List.mem_cons_of_mem _ (List.mem_of_mem_filter hmem)))
  rw [ComponentModule.lines_eq, ← List.append_assoc] at h
  -- The place of the branch is within the dispatchers, so all that stands in front of them is
  -- in front of it.
  rcases List.append_eq_append_iff.1 h with ⟨rest, hbefore, -⟩ | ⟨rest, hfront, hrest⟩
  · rw [hbefore]
    exact List.mem_append_left _ hexporting
  · cases rest with
    | nil =>
      rw [List.append_nil] at hfront
      rwa [← hfront]
    | cons first rest =>
      obtain rfl : variantLine v = first := (List.cons.inj hrest).1
      have hplain := isBranch_eq_false_of_mem hcomponents (hfront ▸
        List.mem_append_right before (List.mem_cons_self (a := variantLine v) (l := rest)))
      rw [hbranch] at hplain
      cases hplain

end Module

/-- A dispatcher's variants are components of the module. -/
theorem exists_component_of_mem_variants {parser : ScriptParser} {t : RuleTable}
    {c : Settings} {overrides : Overrides} {m : ComponentModule}
    (h : generateWith parser t c overrides = .ok m) {d : Dispatcher}
    (hd : d ∈ m.dispatchers) {v : Variant} (hv : v ∈ d.variants) :
    ∃ k ∈ m.components, k.name = v.component := by
  obtain ⟨htag, hdeclared⟩ := declared_of_mem_dispatchers h hd
  rw [hdeclared] at hv
  obtain ⟨k, hk, -, -, hname⟩ := (component_iff_rule h htag).2 hv
  exact ⟨k, hk, hname⟩

theorem isExported_of_generateWith {parser : ScriptParser} {t : RuleTable}
    {c : Settings} {overrides : Overrides} {m : ComponentModule}
    (h : generateWith parser t c overrides = .ok m)
    (hcomponents : ∀ k ∈ m.components, k.IsPrintable)
    (hdispatchers : ∀ d ∈ m.dispatchers, isWord d.name = true) : m.IsExported := by
  have hnames : ∀ k ∈ m.components, isWord k.name = true := fun k hk => (hcomponents k hk).name
  have hvariants : ∀ d ∈ m.dispatchers, ∀ v ∈ d.variants, isWord v.component = true := by
    intro d hd v hv
    obtain ⟨k, hk, hname⟩ := exists_component_of_mem_variants h hd hv
    exact hname ▸ hnames k hk
  have hlines : Text.lines m.text = m.lines :=
    ComponentModule.lines_text ⟨hcomponents, fun d hd => ⟨hdispatchers d hd, hvariants d hd⟩⟩
  have hexports := filter_isExport_lines hnames hdispatchers
  constructor
  · rw [hlines, hexports]
  · rw [hlines, hexports, map_readExport_exporting hnames hdispatchers]
  · rw [hlines, filter_isBranch_module hnames hdispatchers]
  · intro before line after hsplit hbranch
    obtain ⟨⟨d, hd, v, hv, rfl⟩, hbefore⟩ :=
      exporting_mem_of_branch hnames hdispatchers (hlines ▸ hsplit) hbranch
    obtain ⟨k, hk, hname⟩ := exists_component_of_mem_variants h hd hv
    refine ⟨_, _, readBranch_variantLine (hvariants d hd v hv), k.exporting, hbefore k hk,
      k.isExport_exporting, ?_⟩
    rw [Component.readExport_exporting (hnames k hk), hname]

theorem isExported_sampleModule :
    generateWith abortingParser sampleTable { verify := false } Settings.default.registry =
        .ok sampleModule ∧
      (∀ k ∈ sampleModule.components, k.IsPrintable) ∧
      (∀ d ∈ sampleModule.dispatchers, isWord d.name = true) ∧ sampleModule.IsExported :=
  ⟨generateWith_sampleTable _, by decide +kernel, by decide +kernel,
    isExported_of_generateWith (generateWith_sampleTable abortingParser) (by decide +kernel)
      (by decide +kernel)⟩

end AmpComponents
