/-
The ways in which a run fails.

Every failure ends the run, and nothing is produced then.  A failure names its cause; its code
groups it for the caller and its message is what the user reads.
-/
import AmpComponents.Files.Fault
import AmpComponents.Json.Fault

namespace AmpComponents

/-- The two tables an attribute reference can point into. -/
inductive AttributeTable where
  | attrs
  | internedStrings
  deriving DecidableEq, Repr

def AttributeTable.name : AttributeTable → String
  | attrs => "attrs"
  | internedStrings => "internedStrings"

/-- What makes settings unusable. -/
inductive SettingsProblem where
  | malformed (fault : Json.Fault)
  | blankContextModule
  | badOverrideName (name : String)
  deriving DecidableEq, Repr

def SettingsProblem.message : SettingsProblem → String
  | malformed fault => fault.message
  | blankContextModule => "contextModule must not be empty"
  | badOverrideName name => "override '" ++ name ++ "' is not a valid component name"

inductive Failure where
  /-- The rule table is not of the expected form. -/
  | schemaMismatch (fault : Json.Fault)
  /-- A tag refers to an attribute that its table does not have. -/
  | danglingAttribute (tag : String) (table : AttributeTable) (index size : Nat)
  /-- Two rules of one tag name are selected by the same name. -/
  | duplicateVariant (tag specName : String)
  | file (fault : FileFault)
  | settings (problem : SettingsProblem)
  /-- A parser of scripts does not accept the emitted module. -/
  | unreadableScript (diagnostics : List String)
  deriving DecidableEq, Repr

namespace Failure

def code : Failure → String
  | schemaMismatch _ | danglingAttribute .. | duplicateVariant .. => "AMP-ERR-SCHEMA"
  | file _ => "AMP-ERR-IO"
  | settings _ => "AMP-ERR-CONFIG"
  | unreadableScript _ => "AMP-ERR-OUTPUT"

def message : Failure → String
  | schemaMismatch fault => "Rule table does not match the expected schema: " ++ fault.message
  | danglingAttribute tag table index size =>
    "Tag '" ++ tag ++ "' references " ++ table.name ++ "[" ++ toString index
      ++ "], but the table has " ++ toString size ++ " entries"
  | duplicateVariant tag specName =>
    "Tag '" ++ tag ++ "' has more than one variant selected by specName '" ++ specName ++ "'"
  | file fault => "IO error: " ++ fault.message
  | settings problem => "Invalid configuration: " ++ problem.message
  | unreadableScript diagnostics =>
    "Generated module does not parse: " ++ String.intercalate "; " diagnostics

end Failure
end AmpComponents
