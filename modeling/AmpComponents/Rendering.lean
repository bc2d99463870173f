/-
What the emitted helpers do when a page renders.

`renderedProps` is the property helper of the module: a dispatcher's `specName` is dropped and
`className` becomes `class`.  An `ExtensionCollector` is a context that notes each extension
once, in the order of registration.
-/
import AmpComponents.OrderedMap

namespace AmpComponents

/-- The properties an element receives. -/
def renderedProps {α : Type} (props : OrderedMap String α) : OrderedMap String α :=
  let props := props.erase "specName"
  match props.find? "className" with
  | some value => (props.erase "className").insert "class" value
  | none => props

/-! ## Extensions -/

structure ExtensionCollector where
  extensions : List String
  deriving DecidableEq, Repr

namespace ExtensionCollector

def empty : ExtensionCollector := ⟨[]⟩

def register (c : ExtensionCollector) (name : String) : ExtensionCollector :=
  if name ∈ c.extensions then c else ⟨c.extensions ++ [name]⟩

/-- Registers every extension of a component. -/
def registerAll (c : ExtensionCollector) (extensions : List String) : ExtensionCollector :=
  extensions.foldl register c

/-- What can happen to a collector. -/
inductive Step where
  | register (name : String)
  /-- A component with these extensions renders, with the collector as its context or without
  a context. -/
  | guard (extensions : List String) (hasContext : Bool)

def run (c : ExtensionCollector) : Step → ExtensionCollector
  | .register name => c.register name
  | .guard extensions hasContext => if hasContext then c.registerAll extensions else c

end ExtensionCollector
end AmpComponents
