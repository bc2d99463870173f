/-
Checking an emitted module.

Whether a text is a script is for a parser of scripts to say.  The library has none, it is given
one: a `ScriptParser` is all that it knows of such a parser, and what it knows is the report on a
text.  A text is accepted when the parser went through it without any diagnostic.
-/
import AmpComponents.Failure

namespace AmpComponents

/-- What a parser has to say of a text. -/
structure ParserReport where
  /-- The parser gave up before the end. -/
  panicked : Bool
  diagnostics : List String
  deriving DecidableEq, Repr

abbrev ScriptParser := String → ParserReport

namespace ParserReport

def accepts (r : ParserReport) : Bool := !r.panicked && r.diagnostics.isEmpty

/-- What is reported of a text that is not accepted; a parser may give up without a word. -/
def complaints (r : ParserReport) : List String :=
  if r.diagnostics.isEmpty then ["parser aborted"] else r.diagnostics

theorem complaints_ne_nil (r : ParserReport) : r.complaints ≠ [] := by
  unfold complaints
  split
  · simp
  · next h => simpa using h

end ParserReport

/-- Fails with everything the parser has to say. -/
def verifyModule (parser : ScriptParser) (code : String) : Except Failure Unit :=
  if (parser code).accepts then .ok ()
  else .error (.unreadableScript (parser code).complaints)

/-- A text is not turned down without a word. -/
theorem eq_unreadableScript_of_verifyModule {parser : ScriptParser} {code : String} {f : Failure}
    (h : verifyModule parser code = .error f) :
    ∃ diagnostics, diagnostics ≠ [] ∧ f = .unreadableScript diagnostics := by
  unfold verifyModule at h
  split at h
  · cases h
  · cases h
    exact ⟨_, (parser code).complaints_ne_nil, rfl⟩

theorem verifyModule_eq_ok_iff {parser : ScriptParser} {code : String} :
    verifyModule parser code = .ok () ↔ (parser code).accepts = true := by
  unfold verifyModule
  split <;> simp [*]

end AmpComponents
