/-
The helper for properties, read from the preamble and run.

The preamble defines `propsHelper` by statements on a copy of its argument, one to a line:

  const newProps = Object.assign(\x7b\x7d, props);
  if ('className' in newProps) \x7b
    newProps.class = newProps.className;
    …

`readHelper` finds the function among the lines and reads its statements, and `runStatements` runs
them on properties.  Neither knows which statements there are.  That the helper does to properties
what `renderedProps` says is `runHelper_preambleLines`.
-/
import AmpComponents.Proofs.Emission.Lines
import AmpComponents.Proofs.Rendering.Properties

namespace AmpComponents
namespace Script

/-- Properties as a script holds them: an object, its keys in the order of their insertion. -/
abbrev Properties := OrderedMap String Json.Value

/-! ## Statements -/

inductive Statement where
  /-- `const newProps = Object.assign(\x7b\x7d, props);` -/
  | copy
  /-- `if ('key' in newProps) \x7b` -/
  | whenHeld (key : String)
  /-- `delete newProps.key;` -/
  | delete (key : String)
  /-- `newProps.key = newProps.source;` -/
  | assign (key source : String)
  /-- `\x7d` -/
  | close
  /-- `return newProps;` -/
  | giveBack
  deriving DecidableEq, Repr

/-- A word and what stands behind it. -/
def spanWord (s : List Char) : String × List Char :=
  (String.ofList (s.takeWhile Text.isAsciiIdContinue), s.dropWhile Text.isAsciiIdContinue)

/-- What a line says, without the blanks in front. -/
def readStatement (line : String) : Option Statement :=
  let s := line.toList.dropWhile (· = ' ')
  let whenHeld := do
    let (key, rest) := spanWord (← "if ('".toList.isPrefixOf? s)
    if rest = "' in newProps) \x7b".toList then some (Statement.whenHeld key) else none
  let delete := do
    let (key, rest) := spanWord (← "delete newProps.".toList.isPrefixOf? s)
    if rest = [';'] then some (Statement.delete key) else none
  let assign := do
    let (key, rest) := spanWord (← "newProps.".toList.isPrefixOf? s)
    let (source, rest) := spanWord (← " = newProps.".toList.isPrefixOf? rest)
    if rest = [';'] then some (Statement.assign key source) else none
  if s = "const newProps = Object.assign(\x7b\x7d, props);".toList then some .copy
  else if s = ['\x7d'] then some .close
  else if s = "return newProps;".toList then some .giveBack
  else whenHeld <|> delete <|> assign

/-- Runs statements on `held`.  While `skipping`, nothing happens up to the end of the block.  A key
that is not held has no value to assign, and a function that gives nothing back has no result. -/
def runStatements (props : Properties) :
    (skipping : Bool) → (held : Properties) → List Statement → Option Properties
  | _, _, [] => none
  | _, held, .close :: rest => runStatements props false held rest
  | true, held, _ :: rest => runStatements props true held rest
  | false, _, .copy :: rest => runStatements props false props rest
  | false, held, .whenHeld key :: rest => runStatements props (!held.contains key) held rest
  | false, held, .delete key :: rest => runStatements props false (held.erase key) rest
  | false, held, .assign key source :: rest =>
    match held.find? source with
    | some value => runStatements props false (held.insert key value) rest
    | none => none
  | false, held, .giveBack :: _ => some held

/-! ## The helper -/

def helperStart : String := "const propsHelper = (props) => \x7b"

/-- The lines between the one that opens the helper and the one that closes it. -/
def helperBody (lines : List String) : List String :=
  ((lines.dropWhile (· ≠ helperStart)).drop 1).takeWhile (· ≠ "\x7d;")

def readHelper (lines : List String) : Option (List Statement) :=
  ((helperBody lines).filter (· ≠ "")).mapM readStatement

/-- What the helper among these lines makes of properties. -/
def runHelper (lines : List String) (props : Properties) : Option Properties :=
  (readHelper lines).bind (runStatements props false .empty)

/-! ## Blocks

A block whose key is not held leaves everything as it is, and so would its statements. -/

section Blocks

variable (props held : Properties) (rest : List Statement)

theorem runStatements_deleteBlock (key : String) :
    runStatements props false held (.whenHeld key :: .delete key :: .close :: rest) =
      runStatements props false (held.erase key) rest := by
  simp only [runStatements, OrderedMap.contains_eq_isSome]
  cases hfound : held.find? key with
  | none => simp only [Option.isSome_none, Bool.not_false, runStatements,
      OrderedMap.erase_eq_self hfound]
  | some value => simp only [Option.isSome_some, Bool.not_true, runStatements]

theorem runStatements_renameBlock (key source : String) :
    runStatements props false held
        (.whenHeld source :: .assign key source :: .delete source :: .close :: rest) =
      runStatements props false
        (match held.find? source with
          | some value => (held.insert key value).erase source
          | none => held) rest := by
  simp only [runStatements, OrderedMap.contains_eq_isSome]
  cases hfound : held.find? source with
  | none => simp only [Option.isSome_none, Bool.not_false, runStatements]
  | some value => simp only [Option.isSome_some, Bool.not_true, runStatements, hfound]

end Blocks

/-! ## The emitted helper -/

theorem importLine_ne_helperStart (contextModule : String) :
    "import \x7b CONTEXT_KEY \x7d from " ++ Text.literal contextModule ++ ";" ≠ helperStart := by
  intro heq
  have hchars := congrArg String.toList heq
  rw [String.toList_append, String.toList_append, List.append_assoc,
    ← List.append_nil helperStart.toList] at hchars
  exact Text.append_ne_append (Text.departs_toList (by decide)) _ _ hchars

/-- The imports are passed over, whatever the context module is called. -/
theorem helperBody_preambleLines (contextModule : String) :
    helperBody (preambleLines contextModule) = helperBody helperLines := by
  unfold helperBody preambleLines
  rw [List.dropWhile_append_of_pos]
  intro line hline
  refine decide_eq_true ?_
  simp only [List.mem_cons, List.not_mem_nil, or_false] at hline
  rcases hline with rfl | rfl | rfl | rfl
  · decide
  · decide
  · exact importLine_ne_helperStart contextModule
  · decide

theorem readHelper_preambleLines (contextModule : String) :
    readHelper (preambleLines contextModule) =
      some [.copy, .whenHeld "specName", .delete "specName", .close, .whenHeld "className",
        .assign "class" "className", .delete "className", .close, .giveBack] := by
  rw [readHelper, helperBody_preambleLines]
  decide +kernel

theorem runHelper_preambleLines (contextModule : String) (props : Properties) :
    runHelper (preambleLines contextModule) props = some (renderedProps props) := by
  rw [runHelper, readHelper_preambleLines, Option.bind_some, runStatements,
    runStatements_deleteBlock, runStatements_renameBlock, runStatements,
    OrderedMap.find?_erase_of_ne (by decide)]
  cases h : props.find? "className" with
  | none => rw [renderedProps_of_no_className h]
  | some value =>
    rw [renderedProps_of_className h]
    exact congrArg some (OrderedMap.erase_insert_of_ne (by decide) _ _)

end Script
end AmpComponents
