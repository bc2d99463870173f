/-
Rule tables.

A table lists the tags that markup may use.  A tag refers to its attributes by number: a
positive number is a place in `attrs`, and zero or a negative number is, without its sign, a
place in `internedStrings`.  `RuleTable.resolve` follows a reference.

A tag name may have several rules.  The discriminator of a rule tells them apart: it is the spec
name, or the name of the extension, or `default`; an empty name counts as none.
-/
import AmpComponents.Failure

namespace AmpComponents

structure ExtensionSpec where
  name : Option String
  deriving DecidableEq, Repr

structure TagRule where
  tagName : String
  specName : Option String
  extensionSpec : Option ExtensionSpec
  /-- References to the attributes the tag allows. -/
  attrs : List Int64
  requiresExtension : Option (List String)
  deriving DecidableEq, Repr

structure AttributeRule where
  name : Option String
  mandatory : Option Bool
  value : Option String
  deriving DecidableEq, Repr

/-- An interned string is mostly a bare text; a record has the form of an attribute. -/
inductive InternedEntry where
  | record (rule : AttributeRule)
  | text (s : String)
  deriving DecidableEq, Repr

structure RuleTable where
  tags : List TagRule
  attrs : List AttributeRule
  internedStrings : List InternedEntry
  deriving DecidableEq, Repr

/-- A name that is given and not empty. -/
def nonEmpty (s : Option String) : Option String := s.filter (· ≠ "")

theorem nonEmpty_eq_some_iff {s : Option String} {t : String} :
    nonEmpty s = some t ↔ s = some t ∧ t ≠ "" := by
  simp [nonEmpty, Option.filter_eq_some_iff]

namespace TagRule

def named (tagName : String) : TagRule := ⟨tagName, none, none, [], none⟩

/-- The name that selects this rule among those of its tag. -/
def discriminator (rule : TagRule) : String :=
  ((nonEmpty rule.specName).or (nonEmpty (rule.extensionSpec.bind (·.name)))).getD "default"

/-- The extensions to register before the component renders. -/
def requiredExtensions (rule : TagRule) : List String := rule.requiresExtension.getD []

end TagRule

/-! ## Attribute references -/

/-- A place in one of the two tables. -/
structure AttributeRef where
  table : AttributeTable
  index : Nat
  deriving DecidableEq, Repr

def AttributeRef.ofInt64 (r : Int64) : AttributeRef :=
  ⟨if 0 < r.toInt then .attrs else .internedStrings, r.toInt.natAbs⟩

/-- What a reference stands for. -/
structure Attribute where
  name : Option String
  mandatory : Bool
  value : Option String
  deriving DecidableEq, Repr

namespace Attribute

def nameless : Attribute := ⟨none, false, none⟩

def ofRule (rule : AttributeRule) : Attribute :=
  ⟨nonEmpty rule.name, rule.mandatory.getD false, nonEmpty rule.value⟩

end Attribute

/-- A bare text names no attribute. -/
def InternedEntry.toAttribute : InternedEntry → Attribute
  | record rule => .ofRule rule
  | text _ => .nameless

namespace RuleTable

def size (t : RuleTable) : AttributeTable → Nat
  | .attrs => t.attrs.length
  | .internedStrings => t.internedStrings.length

def attributeAt? (t : RuleTable) (r : AttributeRef) : Option Attribute :=
  match r.table with
  | .attrs => t.attrs[r.index]?.map Attribute.ofRule
  | .internedStrings => t.internedStrings[r.index]?.map InternedEntry.toAttribute

/-- The attribute a rule for `tagName` refers to. -/
def resolve (t : RuleTable) (tagName : String) (reference : Int64) : Except Failure Attribute :=
  let r := AttributeRef.ofInt64 reference
  match t.attributeAt? r with
  | some a => .ok a
  | none => .error (.danglingAttribute tagName r.table r.index (t.size r.table))

theorem attributeAt?_isSome_iff {t : RuleTable} {r : AttributeRef} :
    (t.attributeAt? r).isSome = true ↔ r.index < t.size r.table := by
  cases h : r.table <;> simp [attributeAt?, size, h]

end RuleTable
end AmpComponents
