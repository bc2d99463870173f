/-
Components written by hand.

An override registers, under the name of a component, how that component is imported.  A name
keeps the override registered last.
-/
import AmpComponents.Component
import AmpComponents.OrderedMap
import AmpComponents.Text.Quoted

namespace AmpComponents

/-- How a component is imported, given its name. -/
abbrev Override := String → Binding

abbrev Overrides := OrderedMap String Override

/-- A directory name without the slashes at its end. -/
def trimSlashes (dir : String) : String :=
  String.ofList (dir.toList.reverse.dropWhile (· = '/')).reverse

/-- The component is the module of its name in a directory, imported as `<name>Override`. -/
def Override.inDirectory (dir : String) : Override := fun name =>
  ⟨name ++ "Override", trimSlashes dir ++ "/" ++ name⟩

namespace Overrides

def register (r : Overrides) (name : String) (o : Override) : Overrides := r.insert name o

/-- The import of a component that is written by hand. -/
def resolve (r : Overrides) (name : String) : Option Binding := (r.find? name).map (· name)

/-- Every name of the list, in one directory. -/
def ofNames (names : List String) (dir : String) : Overrides :=
  names.foldl (fun r name => register r name (.inDirectory dir)) .empty

/-- The names, sorted. -/
def sortedNames (r : Overrides) : List String := r.keys.mergeSort (fun a b => decide (a ≤ b))

/-- A one-line description, which depends on nothing but the set of names. -/
def describe (r : Overrides) : String :=
  "OverrideRegistry \x7b components: ["
    ++ String.intercalate ", " ((sortedNames r).map Text.quoted) ++ "] \x7d"

theorem resolve_register_self (r : Overrides) (name : String) (o : Override) :
    resolve (register r name o) name = some (o name) := by
  simp [resolve, register]

theorem resolve_register_of_ne {name other : String} (h : other ≠ name) (r : Overrides)
    (o : Override) : resolve (register r name o) other = resolve r other := by
  simp [resolve, register, OrderedMap.find?_insert_of_ne h]

theorem resolve_foldl_register (names : List String) (dir name : String) (r : Overrides) :
    resolve (names.foldl (fun r n => register r n (.inDirectory dir)) r) name =
      if name ∈ names then some (Override.inDirectory dir name) else resolve r name := by
  induction names generalizing r with
  | nil => rfl
  | cons n names ih =>
    rw [List.foldl_cons, ih]
    by_cases hrest : name ∈ names
    · rw [if_pos hrest, if_pos (List.mem_cons_of_mem n hrest)]
    · rw [if_neg hrest]
      by_cases hname : name = n
      · rw [hname, resolve_register_self, if_pos List.mem_cons_self]
      · have hnone : name ∉ n :: names := fun h => (List.mem_cons.1 h).elim hname hrest
        rw [resolve_register_of_ne hname, if_neg hnone]

/-- The names of a list are written by hand, and no others. -/
theorem resolve_ofNames (names : List String) (dir name : String) :
    resolve (ofNames names dir) name =
      if name ∈ names then some (Override.inDirectory dir name) else none := by
  rw [ofNames, resolve_foldl_register]
  rfl

end Overrides
end AmpComponents
