/-
Settings of a run.

Every setting has a default.  Settings are usable when the context module is not blank and every
override is named by an ASCII identifier; `Settings.check` reports the first thing that is not
so.  The fingerprint of settings is their compact JSON text: equal fingerprints mean equal
settings, and it is part of the key under which a module is cached.
-/
import AmpComponents.Json.Schema
import AmpComponents.Json.Value
import AmpComponents.Failure
import AmpComponents.Overrides
import AmpComponents.Text.Blank
import AmpComponents.Text.Identifier

namespace AmpComponents

open Json (Value Schema)

structure Settings where
  /-- The module that exports the context key, as seen from the emitted module. -/
  contextModule : String := "../AmpScripts"
  /-- The directory of the components written by hand. -/
  overridesDir : String := "./components"
  /-- The components written by hand. -/
  overrides : List String := ["AmpState"]
  /-- Whether the emitted module is checked. -/
  verify : Bool := true
  deriving DecidableEq, Repr

namespace Settings

def default : Settings := {}

/-- Whether the settings can be used. -/
def check (c : Settings) : Except SettingsProblem Unit :=
  if Text.isBlankText c.contextModule then .error .blankContextModule
  else match c.overrides.find? (fun name => !Text.isAsciiIdentifier name) with
    | some name => .error (.badOverrideName name)
    | none => .ok ()

def registry (c : Settings) : Overrides := .ofNames c.overrides c.overridesDir

/-! ## JSON -/

inductive Field where
  | contextModule
  | overridesDir
  | overrides
  | verify
  deriving DecidableEq

def schema : Schema Field Settings where
  title := "GeneratorConfig"
  fields := [.contextModule, .overridesDir, .overrides, .verify]
  label
    | .contextModule => "contextModule"
    | .overridesDir => "overridesDir"
    | .overrides => "overrides"
    | .verify => "verify"
  Content
    | .contextModule => String
    | .overridesDir => String
    | .overrides => List String
    | .verify => Bool
  read room
    | .contextModule => Json.readText
    | .overridesDir => Json.readText
    | .overrides => Json.readList (fun _ => Json.readText) room
    | .verify => Json.readBoolean
  fill
    | .contextModule => some default.contextModule
    | .overridesDir => some default.overridesDir
    | .overrides => some default.overrides
    | .verify => some default.verify
  closed := true
  build get := do
    return ⟨← get .contextModule, ← get .overridesDir, ← get .overrides, ← get .verify⟩

def toValue (c : Settings) : Value :=
  .object
    [("contextModule", .text c.contextModule),
     ("overridesDir", .text c.overridesDir),
     ("overrides", .texts c.overrides),
     ("verify", .boolean c.verify)]

def fingerprint (c : Settings) : String := c.toValue.compact

/-- Settings from their source, checked. -/
def parse (source : String) : Except Failure Settings := do
  let c ← (Json.parse schema.readRecord (.ofText source)).mapError fun fault =>
    Failure.settings (.malformed fault)
  match c.check with
  | .ok () => .ok c
  | .error problem => .error (.settings problem)

end Settings
end AmpComponents
