/-
The text of a dispatcher, read and run as a script.

A dispatcher is emitted as a function whose body is a chain of branches, one to a line:

  if (props.specName === '…') return <Name \x7b...propsHelper(props)\x7d />;

and a last line that renders nothing.  `readBranch` reads such a line, the literal by the rules of
the language, and `runBody` executes the chain from top to bottom for a value of
`props.specName`.  Behind the function stands the list of names the property accepts, which
`acceptedNames` reads.  None of these looks at the dispatcher the text was made from.

`isRendering_lines` says that the text means what the dispatcher means: its chain
renders what `Dispatcher.select` selects, and it accepts the names for which something is
selected.  The spec names may be any texts; the names of the components have to be words, since
they stand in the text as they are.
-/
import AmpComponents.Proofs.Json.Compact
import AmpComponents.Proofs.Json.Controls
import AmpComponents.Proofs.Lines
import AmpComponents.Proofs.Script.StringLiteral
import AmpComponents.Proofs.Text.Spans
import AmpComponents.Text.Identifier

namespace AmpComponents
namespace Script

/-! ## Reading and running -/

def branchStart : List Char := "  if (props.specName === ".toList

def branchReturn : List Char := ") return <".toList

def branchEnd : List Char := " \x7b...propsHelper(props)\x7d />;".toList

def isBranch (line : String) : Bool := branchStart.isPrefixOf line.toList

/-- The name a branch compares with and the element it returns. -/
def readBranch (line : String) : Option (List UInt16 × String) := do
  let rest ← branchStart.isPrefixOf? line.toList
  let (name, rest) ← readString rest
  let rest ← branchReturn.isPrefixOf? rest
  let element := rest.takeWhile Text.isAsciiIdContinue
  if element ≠ [] ∧ rest.dropWhile Text.isAsciiIdContinue = branchEnd then
    some (name, String.ofList element)
  else none

def functionStart : List Char := "const ".toList

def functionEnd : List Char := " = (props) => \x7b".toList

/-- Whether a line opens a function of the properties. -/
def opensFunction (line : String) : Bool :=
  match functionStart.isPrefixOf? line.toList with
  | some rest => rest.dropWhile Text.isAsciiIdContinue = functionEnd
  | none => false

/-- Executes the chain: the element that is rendered, or `none` when nothing is.  A line of any
other form has no result. -/
def runBody (specName : List UInt16) : List String → Option (Option String)
  | [] => none
  | line :: rest =>
    if line = "  return null;" then some none
    else match readBranch line with
      | some (name, element) =>
        if specName = name then some (some element) else runBody specName rest
      | none => none

/-- What a dispatcher's text renders for a value of `props.specName`. -/
def run (text : String) (specName : List UInt16) : Option (Option String) :=
  match Text.lines text with
  | first :: body => if opensFunction first then runBody specName body else none
  | [] => none

/-- The strings of a list behind its bracket, when it is not empty. -/
def readStrings : (budget : List Char) → List Char → Option (List (List UInt16) × List Char)
  | [], _ => none
  | _ :: budget, s => do
    match ← readString s with
    | (first, ']' :: s) => some ([first], s)
    | (first, ',' :: s) =>
      let (others, s) ← readStrings budget s
      some (first :: others, s)
    | _ => none

/-- A list of strings. -/
def readStringList : List Char → Option (List (List UInt16) × List Char)
  | '[' :: ']' :: s => some ([], s)
  | '[' :: s => readStrings s s
  | _ => none

def acceptStart : List Char := "  specName: PropTypes.oneOf(".toList

def acceptEnd : List Char := ").isRequired,".toList

/-- The names a property line accepts. -/
def readAccepted (line : String) : Option (List (List UInt16)) := do
  let rest ← acceptStart.isPrefixOf? line.toList
  let (names, rest) ← readStringList rest
  if rest = acceptEnd then some names else none

/-- The names a dispatcher's text accepts. -/
def acceptedNames (text : String) : Option (List (List UInt16)) :=
  (Text.lines text).findSome? readAccepted

/-! ## Words -/

/-- A name that can stand in the script as it is. -/
def isWord (name : String) : Bool :=
  name.toList ≠ [] && name.toList.all Text.isAsciiIdContinue

section Word

variable {name : String} (h : isWord name = true)

include h

theorem ne_nil_of_isWord : name.toList ≠ [] := by
  rw [isWord, Bool.and_eq_true] at h
  simpa using h.1

theorem all_of_isWord : ∀ c ∈ name.toList, Text.isAsciiIdContinue c = true := by
  rw [isWord, Bool.and_eq_true] at h
  exact List.all_eq_true.1 h.2

theorem not_mem_of_isWord {c : Char} (hc : Text.isAsciiIdContinue c = false) :
    c ∉ name.toList := by
  intro hmem
  have hword := all_of_isWord h c hmem
  rw [hc] at hword
  cases hword

theorem feed_not_mem_of_isWord : '\n' ∉ name.toList :=
  not_mem_of_isWord h (by decide)

/-- A word ends where a character follows that is in no word. -/
theorem takeWhile_word {c : Char} (hc : Text.isAsciiIdContinue c = false) (rest : List Char) :
    (name.toList ++ c :: rest).takeWhile Text.isAsciiIdContinue = name.toList := by
  rw [List.takeWhile_append_of_pos (all_of_isWord h), List.takeWhile_cons_of_neg (by simp [hc]),
    List.append_nil]

theorem dropWhile_word {c : Char} (hc : Text.isAsciiIdContinue c = false) (rest : List Char) :
    (name.toList ++ c :: rest).dropWhile Text.isAsciiIdContinue = c :: rest := by
  rw [List.dropWhile_append_of_pos (all_of_isWord h), List.dropWhile_cons_of_neg (by simp [hc])]

end Word

/-! ## Branches -/

theorem isPrefixOf?_append (start rest : List Char) :
    start.isPrefixOf? (start ++ rest) = some rest :=
  List.isPrefixOf?_eq_some_iff_append_eq.2 rfl

theorem toList_variantLine (v : Variant) :
    (variantLine v).toList = branchStart ++ (Text.literalChars v.specName.toList ++
      (branchReturn ++ (v.component.toList ++ branchEnd))) := by
  have hliteral : (Text.literal v.specName).toList = Text.literalChars v.specName.toList :=
    String.toList_ofList
  unfold variantLine
  rw [String.toList_append, String.toList_append, String.toList_append, String.toList_append,
    hliteral, List.append_assoc, List.append_assoc, List.append_assoc]
  rfl

theorem branchEnd_eq_cons : branchEnd = ' ' :: branchEnd.tail := rfl

theorem readBranch_variantLine {v : Variant} (h : isWord v.component = true) :
    readBranch (variantLine v) = some (codeUnits v.specName.toList, v.component) := by
  have hspace : Text.isAsciiIdContinue ' ' = false := by decide
  rw [readBranch, toList_variantLine, isPrefixOf?_append]
  simp only [bind, Option.bind, readString_literalChars, isPrefixOf?_append]
  rw [branchEnd_eq_cons, takeWhile_word h hspace, dropWhile_word h hspace,
    if_pos ⟨ne_nil_of_isWord h, rfl⟩, String.ofList_toList]

theorem isBranch_variantLine (v : Variant) : isBranch (variantLine v) = true := by
  rw [isBranch, toList_variantLine, List.isPrefixOf_iff_prefix]
  exact List.prefix_append ..

theorem feed_not_mem_literal (s : String) : '\n' ∉ (Text.literal s).toList := by
  rw [Text.literal, String.toList_ofList]
  exact Text.not_mem_of_noControls (Text.noControls_literalChars _) (by decide)

theorem isLine_variantLine {v : Variant} (h : isWord v.component = true) :
    IsLine (variantLine v).toList :=
  isLine_around_two (feed_not_mem_literal _) (feed_not_mem_of_isWord h) (by decide)

/-! ## The accepted names -/

theorem itemChars_texts_cons (name : String) {names : List String} (hne : names ≠ []) :
    Json.Value.itemChars ((name :: names).map .text) =
      Json.stringChars name ++ ',' :: Json.Value.itemChars (names.map .text) := by
  have hvalues : names.map Json.Value.text ≠ [] := by simpa using hne
  rw [List.map_cons, Json.itemChars_cons _ hvalues, Json.Value.chars]

/-- The induction is on the names, each of which takes one character of the budget. -/
theorem readStrings_itemChars {names : List String} (hne : names ≠ []) (rest : List Char)
    {budget : List Char} (hbudget : names.length ≤ budget.length) :
    readStrings budget (Json.Value.itemChars (names.map .text) ++ ']' :: rest) =
      some (names.map fun name => codeUnits name.toList, rest) := by
  induction names generalizing budget with
  | nil => exact absurd rfl hne
  | cons name others ih =>
    obtain _ | ⟨b, budget⟩ := budget
    · exact absurd hbudget (by simp)
    by_cases hothers : others = []
    · subst hothers
      show readStrings (b :: budget) (Json.stringChars name ++ ']' :: rest) = _
      rw [readStrings, readString_stringChars]
      rfl
    · have hless : others.length ≤ budget.length := by simpa using hbudget
      have htail := ih hothers hless
      rw [itemChars_texts_cons name hothers, List.append_assoc, List.cons_append,
        readStrings, readString_stringChars]
      simp only [bind, Option.bind, htail]
      rfl

theorem toList_specNameList (names : List String) :
    (specNameList names).toList = '[' :: Json.Value.itemChars (names.map .text) ++ [']'] :=
  String.toList_ofList

theorem readStringList_specNameList (names : List String) (rest : List Char) :
    readStringList ((specNameList names).toList ++ rest) =
      some (names.map fun name => codeUnits name.toList, rest) := by
  rw [toList_specNameList, List.append_assoc, List.singleton_append]
  by_cases hnames : names = []
  · subst hnames
    rfl
  · have hlength : names.length ≤
        (Json.Value.itemChars (names.map .text) ++ ']' :: rest).length := by
      have hle := Json.length_le_itemChars (names.map .text)
      rw [List.length_map] at hle
      rw [List.length_append, List.length_cons]
      omega
    have hread := readStrings_itemChars hnames rest hlength
    obtain ⟨name, others, rfl⟩ := List.exists_cons_of_ne_nil hnames
    have hquote : ∃ s, Json.Value.itemChars ((name :: others).map .text) ++ ']' :: rest =
        '"' :: s := by
      cases others <;> exact ⟨_, rfl⟩
    obtain ⟨s, hs⟩ := hquote
    rw [List.cons_append, hs, readStringList, ← hs, hread]
    all_goals simp

/-! ## The other lines -/

theorem isPrefixOf?_eq_none {start a : List Char} (h : Text.Departs start a) (rest : List Char) :
    start.isPrefixOf? (a ++ rest) = none := by
  rw [Option.eq_none_iff_forall_ne_some]
  intro s hs
  rw [List.isPrefixOf?_eq_some_iff_append_eq] at hs
  exact Text.append_ne_append h _ _ hs

theorem isPrefixOf?_toList {start line : List Char} (h : start.isPrefixOf? line = none) :
    (String.ofList start).toList.isPrefixOf? (String.ofList line).toList = none := by
  rwa [String.toList_ofList, String.toList_ofList]

theorem isPrefixOf?_word {name : String} (h : isWord name = true) {start : List Char}
    (hstart : start.head? = some ' ') (rest : List Char) :
    start.isPrefixOf? (name.toList ++ rest) = none := by
  obtain ⟨c, cs, hname⟩ := List.exists_cons_of_ne_nil (ne_nil_of_isWord h)
  obtain ⟨start, rfl⟩ := List.head?_eq_some_iff.1 hstart
  have hc : c ≠ ' ' := by
    rintro rfl
    exact not_mem_of_isWord h (by decide) (hname ▸ List.mem_cons_self)
  rw [hname, List.cons_append, List.isPrefixOf?, if_neg (by simpa using hc.symm)]

theorem isBranch_eq_false {line : String} (h : branchStart.isPrefixOf? line.toList = none) :
    isBranch line = false := by
  rw [isBranch, ← List.isSome_isPrefixOf?_eq_isPrefixOf, h, Option.isSome_none]

theorem isBranch_return : isBranch "  return null;" = false :=
  isBranch_eq_false (isPrefixOf?_toList (by decide))

theorem variantLine_ne_return (v : Variant) : variantLine v ≠ "  return null;" := by
  intro heq
  have hbranch := isBranch_variantLine v
  rw [heq, isBranch_return] at hbranch
  cases hbranch

theorem readAccepted_eq_none {line : String} (h : acceptStart.isPrefixOf? line.toList = none) :
    readAccepted line = none := by
  rw [readAccepted, h]
  rfl

theorem readAccepted_variantLine (v : Variant) : readAccepted (variantLine v) = none := by
  apply readAccepted_eq_none
  rw [toList_variantLine]
  exact isPrefixOf?_eq_none (Text.departs_toList (by decide)) _

theorem lineFeed_not_mem_specNameList (names : List String) :
    '\n' ∉ (specNameList names).toList := by
  rw [specNameList, Json.Value.compact, String.toList_ofList]
  exact Text.not_mem_of_noControls (Json.noControls_chars _) (by decide)

section Lines

variable (d : Dispatcher)

def openingLine : String := "const " ++ d.name ++ " = (props) => \x7b"

def acceptLine : String :=
  "  specName: PropTypes.oneOf(" ++ specNameList d.specNames ++ ").isRequired,"

/-- What stands behind the branches. -/
def closingLines : List String :=
  ["  return null;", "\x7d;", "", d.name ++ ".propTypes = \x7b", acceptLine d, "\x7d;", "",
    exportLine d.name]

theorem lines_eq :
    d.lines = openingLine d :: (d.variants.map variantLine ++ closingLines d) := by
  rw [Dispatcher.lines, List.append_assoc]
  rfl

theorem toList_openingLine :
    (openingLine d).toList = functionStart ++ (d.name.toList ++ functionEnd) := by
  rw [openingLine, String.toList_append, String.toList_append, List.append_assoc]
  rfl

theorem toList_acceptLine :
    (acceptLine d).toList = acceptStart ++ ((specNameList d.specNames).toList ++ acceptEnd) := by
  unfold acceptLine acceptStart acceptEnd
  rw [String.toList_append, String.toList_append, List.append_assoc]

theorem readAccepted_acceptLine :
    readAccepted (acceptLine d) = some (d.specNames.map fun name => codeUnits name.toList) := by
  rw [readAccepted, toList_acceptLine, isPrefixOf?_append]
  simp only [bind, Option.bind, readStringList_specNameList, if_true]

theorem isBranch_openingLine : isBranch (openingLine d) = false := by
  apply isBranch_eq_false
  rw [toList_openingLine]
  exact isPrefixOf?_eq_none (Text.departs_toList (by decide)) _

theorem readAccepted_openingLine : readAccepted (openingLine d) = none := by
  apply readAccepted_eq_none
  rw [toList_openingLine]
  exact isPrefixOf?_eq_none (Text.departs_toList (by decide)) _

variable {d} (hd : isWord d.name = true)

include hd

theorem opensFunction_openingLine : opensFunction (openingLine d) = true := by
  have hspace : Text.isAsciiIdContinue ' ' = false := by decide
  have hend : functionEnd = ' ' :: functionEnd.tail := rfl
  rw [opensFunction, toList_openingLine, isPrefixOf?_append]
  show decide (_ = functionEnd) = true
  rw [hend, dropWhile_word hd hspace, decide_eq_true rfl]

/-- The line that declares the property types starts with the name, so it is none of the lines
that start with a blank. -/
theorem isPrefixOf?_propTypesLine {start : List Char} (hstart : start.head? = some ' ') :
    start.isPrefixOf? (d.name ++ ".propTypes = \x7b").toList = none := by
  rw [String.toList_append]
  exact isPrefixOf?_word hd hstart _

theorem isBranch_of_mem_closingLines {line : String} (h : line ∈ closingLines d) :
    isBranch line = false := by
  have hbrace : isBranch "\x7d;" = false := isBranch_eq_false (isPrefixOf?_toList (by decide))
  have hblank : isBranch "" = false := isBranch_eq_false (isPrefixOf?_toList (by decide))
  simp only [closingLines, List.mem_cons, List.not_mem_nil, or_false] at h
  rcases h with rfl | rfl | rfl | rfl | rfl | rfl | rfl | rfl
  · exact isBranch_return
  · exact hbrace
  · exact hblank
  · exact isBranch_eq_false (isPrefixOf?_propTypesLine hd rfl)
  · apply isBranch_eq_false
    rw [toList_acceptLine]
    exact isPrefixOf?_eq_none (Text.departs_toList (by decide)) _
  · exact hbrace
  · exact hblank
  · apply isBranch_eq_false
    rw [exportLine, String.append_assoc, String.toList_append]
    exact isPrefixOf?_eq_none (Text.departs_toList (by decide)) _

theorem isLine_openingLine : IsLine (openingLine d).toList :=
  isLine_around (feed_not_mem_of_isWord hd) (by decide)

theorem isLine_of_mem_closingLines {line : String} (h : line ∈ closingLines d) :
    IsLine line.toList := by
  have hword := feed_not_mem_of_isWord hd
  simp only [closingLines, List.mem_cons, List.not_mem_nil, or_false] at h
  rcases h with rfl | rfl | rfl | rfl | rfl | rfl | rfl | rfl
  · exact isLine_ofList (by decide)
  · exact isLine_brace
  · exact isLine_blank
  · exact isLine_before hword (by decide)
  · exact isLine_around (lineFeed_not_mem_specNameList _) (by decide)
  · exact isLine_brace
  · exact isLine_blank
  · exact isLine_around hword (by decide)

/-- The first property line that can be read is the one that lists the names. -/
theorem findSome?_readAccepted :
    d.lines.findSome? readAccepted =
      some (d.specNames.map fun name => codeUnits name.toList) := by
  have hbranches : (d.variants.map variantLine).findSome? readAccepted = none := by
    rw [List.findSome?_eq_none_iff]
    intro line hline
    obtain ⟨v, -, rfl⟩ := List.mem_map.1 hline
    exact readAccepted_variantLine v
  have hreturn : readAccepted "  return null;" = none :=
    readAccepted_eq_none (isPrefixOf?_toList (by decide))
  have hbrace : readAccepted "\x7d;" = none :=
    readAccepted_eq_none (isPrefixOf?_toList (by decide))
  have hblank : readAccepted "" = none := readAccepted_eq_none (isPrefixOf?_toList (by decide))
  have hpropTypes : readAccepted (d.name ++ ".propTypes = \x7b") = none :=
    readAccepted_eq_none (isPrefixOf?_propTypesLine hd rfl)
  rw [lines_eq, List.findSome?_cons, readAccepted_openingLine]
  simp only [List.findSome?_append, hbranches, Option.none_or, closingLines,
    List.findSome?_cons, hreturn, hbrace, hblank, hpropTypes, readAccepted_acceptLine]

end Lines

/-! ## The text as a whole -/

/-- The induction follows the chain: a branch either returns or leaves the rest to decide. -/
theorem runBody_variantLines {variants : List Variant}
    (h : ∀ v ∈ variants, isWord v.component = true) (specName : String) (rest : List String) :
    runBody (codeUnits specName.toList)
        (variants.map variantLine ++ "  return null;" :: rest) =
      some ((variants.find? (·.specName == specName)).map (·.component)) := by
  induction variants with
  | nil => exact if_pos rfl
  | cons v variants ih =>
    obtain ⟨hv, hvariants⟩ := List.forall_mem_cons.1 h
    rw [List.map_cons, List.cons_append, runBody, if_neg (variantLine_ne_return v),
      readBranch_variantLine hv]
    by_cases hname : v.specName = specName
    · subst hname
      rw [List.find?_cons_of_pos (by simp)]
      exact if_pos rfl
    · have hunits : codeUnits specName.toList ≠ codeUnits v.specName.toList := fun e =>
        hname (String.toList_inj.1 (codeUnits_inj.1 e)).symm
      rw [List.find?_cons_of_neg (by simpa using hname), ← ih hvariants]
      exact if_neg hunits

/-- A text that means what a dispatcher means. -/
structure IsRendering (d : Dispatcher) (text : String) : Prop where
  /-- The branches are the variants, in order. -/
  branches : ((Text.lines text).filter isBranch).map readBranch =
    d.variants.map fun v => some (codeUnits v.specName.toList, v.component)
  /-- Running the text renders what the dispatcher selects. -/
  renders : ∀ specName : String, run text (codeUnits specName.toList) = some (d.select specName)
  /-- The accepted names are the spec names, in order. -/
  accepted : acceptedNames text = some (d.specNames.map fun name => codeUnits name.toList)
  /-- A name is accepted when something is selected for it. -/
  accepts : ∀ names, acceptedNames text = some names →
    ∀ specName : String, codeUnits specName.toList ∈ names ↔ (d.select specName).isSome

section Rendering

variable {d : Dispatcher} (hd : isWord d.name = true)

include hd

theorem filter_isBranch_lines : d.lines.filter isBranch = d.variants.map variantLine := by
  have hopening : ¬isBranch (openingLine d) = true := by simp [isBranch_openingLine]
  have hbranches : (d.variants.map variantLine).filter isBranch = d.variants.map variantLine := by
    rw [List.filter_eq_self]
    intro line hline
    obtain ⟨v, -, rfl⟩ := List.mem_map.1 hline
    exact isBranch_variantLine v
  have hclosing : (closingLines d).filter isBranch = [] := by
    rw [List.filter_eq_nil_iff]
    intro line hline
    simp [isBranch_of_mem_closingLines hd hline]
  rw [lines_eq, List.filter_cons_of_neg hopening, List.filter_append, hbranches, hclosing,
    List.append_nil]

variable (hcomponents : ∀ v ∈ d.variants, isWord v.component = true)

include hcomponents

/-- No spec name opens another line. -/
theorem isLine_of_mem_lines {line : String} (hline : line ∈ d.lines) : IsLine line.toList := by
  rw [lines_eq, List.mem_cons, List.mem_append] at hline
  rcases hline with rfl | hbranch | hclosing
  · exact isLine_openingLine hd
  · obtain ⟨v, hv, rfl⟩ := List.mem_map.1 hbranch
    exact isLine_variantLine (hcomponents v hv)
  · exact isLine_of_mem_closingLines hd hclosing

theorem lines_renderLines_lines : Text.lines (renderLines d.lines) = d.lines :=
  lines_renderLines fun _ hline => isLine_of_mem_lines hd hcomponents hline

theorem branches_lines :
    ((Text.lines (renderLines d.lines)).filter isBranch).map readBranch =
      d.variants.map fun v => some (codeUnits v.specName.toList, v.component) := by
  rw [lines_renderLines_lines hd hcomponents, filter_isBranch_lines hd, List.map_map]
  exact List.map_congr_left fun v hv => readBranch_variantLine (hcomponents v hv)

theorem run_lines (specName : String) :
    run (renderLines d.lines) (codeUnits specName.toList) = some (d.select specName) := by
  rw [run, lines_renderLines_lines hd hcomponents, lines_eq]
  show (if opensFunction (openingLine d) = true then _ else none) = _
  rw [if_pos (opensFunction_openingLine hd)]
  exact runBody_variantLines hcomponents specName _

theorem acceptedNames_lines :
    acceptedNames (renderLines d.lines) =
      some (d.specNames.map fun name => codeUnits name.toList) := by
  rw [acceptedNames, lines_renderLines_lines hd hcomponents, findSome?_readAccepted hd]

end Rendering

theorem isRendering_lines {d : Dispatcher} (hd : isWord d.name = true)
    (hcomponents : ∀ v ∈ d.variants, isWord v.component = true) :
    IsRendering d (renderLines d.lines) := by
  have haccepted := acceptedNames_lines hd hcomponents
  refine ⟨branches_lines hd hcomponents, run_lines hd hcomponents, haccepted, ?_⟩
  intro names hnames specName
  obtain rfl := Option.some.inj (haccepted.symm.trans hnames)
  rw [Dispatcher.select_isSome_iff, List.mem_map]
  constructor
  · rintro ⟨name, hname, hunits⟩
    rwa [← String.toList_inj.1 (codeUnits_inj.1 hunits)]
  · intro hname
    exact ⟨specName, hname, rfl⟩

/-- Names that hold quotes of both kinds, a backslash and line ends of the script. -/
def sampleDispatcher : Dispatcher :=
  ⟨"AmpAd", "AMP-AD", [⟨"it's", "AmpAd1"⟩, ⟨"say \"\\\"", "AmpAd$2"⟩,
    ⟨"one\ntwo\rthree\u2028four", "_AmpAd3"⟩]⟩

theorem isRendering_sampleDispatcher :
    isWord sampleDispatcher.name = true ∧
      (∀ v ∈ sampleDispatcher.variants, isWord v.component = true) ∧
      IsRendering sampleDispatcher (renderLines sampleDispatcher.lines) :=
  ⟨by decide +kernel, by decide +kernel, isRendering_lines (by decide +kernel) (by decide +kernel)⟩

end Script
end AmpComponents
