/-
Components from rules.

Each retained rule yields one component.  Its properties are the named attributes the rule refers
to; an attribute with a value gives its property a default unless it is mandatory.  A component
whose name has an override is imported, and its references are followed all the same, so a
dangling one ends the run whatever the overrides are.  Each shared tag name yields a dispatcher.
-/
import AmpComponents.Component
import AmpComponents.Overrides
import AmpComponents.SharedTags
import AmpComponents.Text.Casing

namespace AmpComponents

/-! ## Properties -/

structure Props where
  types : List PropType
  defaults : List DefaultProp
  deriving DecidableEq, Repr

namespace Attribute

/-- The property of a named attribute. -/
def propType? (a : Attribute) : Option PropType := a.name.map fun name => ⟨name, a.mandatory⟩

/-- The default of a named attribute that has a value and is not mandatory. -/
def defaultProp? (a : Attribute) : Option DefaultProp :=
  match a.name, a.mandatory, a.value with
  | some name, false, some value => some ⟨name, value⟩
  | _, _, _ => none

end Attribute

def Props.ofAttributes (attributes : List Attribute) : Props :=
  ⟨attributes.filterMap Attribute.propType?, attributes.filterMap Attribute.defaultProp?⟩

/-- The properties of a rule.  The first reference that dangles is the failure. -/
def RuleTable.props (t : RuleTable) (rule : TagRule) : Except Failure Props := do
  let attributes ← rule.attrs.mapM (t.resolve rule.tagName)
  return .ofAttributes attributes

/-! ## Components -/

def ComponentKind.of (overrides : Overrides) (name tagName : String) : ComponentKind :=
  match overrides.resolve name with
  | some binding => .handwritten binding
  | none => .element (Text.lowerText tagName)

/-- The component of a retained rule. -/
def Component.ofTag (t : RuleTable) (overrides : Overrides) (tag : RetainedTag) :
    Except Failure Component := do
  let props ← t.props tag.rule
  let name := exportName tag.sourceName
  return {
    name := name
    tagName := tag.rule.tagName
    specName := tag.specName
    kind := .of overrides name tag.rule.tagName
    propTypes := props.types
    defaultProps := props.defaults
    extensions := tag.rule.requiredExtensions }

/-- The components of the retained rules, in their order. -/
def synthesizeComponents (t : RuleTable) (overrides : Overrides) (tags : List RetainedTag) :
    Except Failure (List Component) :=
  (tags.filter fun tag => !isBlocked tag.rule.tagName).mapM (Component.ofTag t overrides)

/-! ## Dispatchers -/

/-- The variant for a variant name and its discriminator. -/
def Variant.ofEntry (entry : String × String) : Variant := ⟨entry.2, exportName entry.1⟩

def Dispatcher.ofEntry (entry : String × OrderedMap String String) : Dispatcher :=
  ⟨exportName entry.1, entry.1, entry.2.entries.map .ofEntry⟩

/-- The dispatchers of the shared tag names, in the order of their registration. -/
def SharedTags.dispatchers (r : SharedTags) : List Dispatcher :=
  (r.entries.filter fun entry => !isBlocked entry.1).map .ofEntry

end AmpComponents
