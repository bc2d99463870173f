/-
Components and dispatchers.

A component wraps one element of the markup, or stands for a component written by hand that is
imported under a local name.  A dispatcher stands for a tag name that several rules share: it
renders the variant that the `specName` property selects.
-/
namespace AmpComponents

structure PropType where
  name : String
  required : Bool
  deriving DecidableEq, Repr

structure DefaultProp where
  name : String
  value : String
  deriving DecidableEq, Repr

/-- Where a component written by hand comes from. -/
structure Binding where
  localName : String
  importSource : String
  deriving DecidableEq, Repr

inductive ComponentKind where
  /-- Renders the element with this tag. -/
  | element (tag : String)
  /-- Renders a component written by hand. -/
  | handwritten (binding : Binding)
  deriving DecidableEq, Repr

structure Component where
  name : String
  tagName : String
  specName : Option String
  kind : ComponentKind
  propTypes : List PropType
  defaultProps : List DefaultProp
  /-- The extensions registered with the context before the component renders. -/
  extensions : List String
  deriving DecidableEq, Repr

def Component.isHandwritten (c : Component) : Bool :=
  match c.kind with
  | .handwritten _ => true
  | .element _ => false

/-! ## Dispatchers -/

structure Variant where
  specName : String
  component : String
  deriving DecidableEq, Repr

structure Dispatcher where
  name : String
  tagName : String
  variants : List Variant
  deriving DecidableEq, Repr

namespace Dispatcher

/-- The names a dispatcher accepts, in the order in which it tries them. -/
def specNames (d : Dispatcher) : List String := d.variants.map (·.specName)

/-- The component rendered for a name; nothing is rendered for a name that no variant has. -/
def select (d : Dispatcher) (specName : String) : Option String :=
  (d.variants.find? (·.specName = specName)).map (·.component)

theorem select_isSome_iff {d : Dispatcher} {s : String} :
    (d.select s).isSome = true ↔ s ∈ d.specNames := by
  simp [select, specNames]

end Dispatcher
end AmpComponents
