/-
Rule tables and settings from files.
-/
import AmpComponents.Files.Access
import AmpComponents.Rules.Format
import AmpComponents.Settings

namespace AmpComponents

variable {m : Type → Type} [Monad m] [FileAccess m]

/-- Reads a text file and makes something of its text. -/
def loadWith {α : Type} (parse : String → Except Failure α) (p : Path) : m (Except Failure α) := do
  match ← FileAccess.readText p with
  | .error fault => return .error (.file fault)
  | .ok text => return parse text

def RuleTable.load (p : Path) : m (Except Failure RuleTable) := loadWith RuleTable.parse p

def Settings.load (p : Path) : m (Except Failure Settings) := loadWith Settings.parse p

end AmpComponents
