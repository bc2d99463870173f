/-
From a rule table to a component module.

A run checks the settings, retains the rules that yield components, follows their references, and
builds the dispatchers.  If the settings ask for it, the text of the module is then given to a
parser of scripts, which is a parameter of the run.
-/
import AmpComponents.Emission
import AmpComponents.Settings
import AmpComponents.Synthesis
import AmpComponents.Rules.Format
import AmpComponents.Verification

namespace AmpComponents

/-- The module of a table, without any check. -/
def assemble (t : RuleTable) (c : Settings) (overrides : Overrides) :
    Except Failure ComponentModule := do
  let retention ← Retention.ofRules t.tags
  let components ← synthesizeComponents t overrides retention.tags
  return ⟨c.contextModule, components, retention.shared.dispatchers⟩

section

variable (parser : ScriptParser)

/-- The check of its text that the settings ask for. -/
def ComponentModule.verify (c : Settings) (m : ComponentModule) : Except Failure Unit :=
  if c.verify then verifyModule parser m.text else .ok ()

/-- The module of a table, with the overrides given. -/
def generateWith (t : RuleTable) (c : Settings) (overrides : Overrides) :
    Except Failure ComponentModule := do
  match c.check with
  | .error problem => .error (.settings problem)
  | .ok () =>
    let m ← assemble t c overrides
    m.verify parser c
    return m

/-- The module of a table, with the overrides that the settings name. -/
def generate (t : RuleTable) (c : Settings) : Except Failure ComponentModule :=
  generateWith parser t c c.registry

/-- The text of the module for a table's source. -/
def generateText (source : String) (c : Settings) : Except Failure String := do
  return (← generate parser (← RuleTable.parse source) c).text

end

end AmpComponents
