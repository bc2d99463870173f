/-
Tag names with several rules.

The rules are counted first, over the whole table, so every rule of a shared tag name is renamed,
the first one included.  A rule that keeps its tag name to itself passes unchanged, and a rule for a
blocked tag is dropped.  Two rules of one tag name with the same discriminator would share one
component, so they end the run.
-/
import AmpComponents.ExportName
import AmpComponents.OrderedMap
import AmpComponents.Rules

namespace AmpComponents

/-- For each shared tag name its variant names, each with its discriminator. -/
abbrev SharedTags := OrderedMap String (OrderedMap String String)

namespace SharedTags

/-- The variants registered under a tag name; none for a name that was never registered. -/
def variants (r : SharedTags) (tag : String) : OrderedMap String String :=
  (r.find? tag).getD .empty

/-- Adds a variant under a tag name, or gives a variant that is there its new discriminator. -/
def register (r : SharedTags) (tag variant discriminator : String) : SharedTags :=
  r.insert tag ((variants r tag).insert variant discriminator)

theorem variants_register_self (r : SharedTags) (tag variant discriminator : String) :
    variants (register r tag variant discriminator) tag =
      (variants r tag).insert variant discriminator := by
  simp [variants, register]

theorem variants_register_of_ne {tag other : String} (h : other ≠ tag) (r : SharedTags)
    (variant discriminator : String) :
    variants (register r tag variant discriminator) other = variants r other := by
  simp [variants, register, OrderedMap.find?_insert_of_ne h]

end SharedTags

/-! ## Counting -/

/-- How often a tag name occurs among the rules. -/
def occurrences (tag : String) (rules : List TagRule) : Nat := rules.countP (·.tagName = tag)

/-- How often each tag name was met, in the order of first occurrence. -/
abbrev Tally := OrderedMap String Nat

namespace Tally

/-- A name that was never met has no entry. -/
def count (counts : Tally) (tag : String) : Nat := (counts.find? tag).getD 0

def note (counts : Tally) (tag : String) : Tally := counts.insert tag (counts.count tag + 1)

def ofRules (rules : List TagRule) : Tally :=
  rules.foldl (fun counts rule => counts.note rule.tagName) .empty

theorem count_note_self (counts : Tally) (tag : String) :
    (counts.note tag).count tag = counts.count tag + 1 := by
  simp [count, note]

theorem count_note_of_ne {tag other : String} (h : other ≠ tag) (counts : Tally) :
    (counts.note tag).count other = counts.count other := by
  simp [count, note, OrderedMap.find?_insert_of_ne h]

theorem count_foldl_note (rules : List TagRule) (counts : Tally) (tag : String) :
    (rules.foldl (fun counts rule => counts.note rule.tagName) counts).count tag =
      counts.count tag + occurrences tag rules := by
  induction rules generalizing counts with
  | nil => rfl
  | cons rule rules ih =>
    rw [List.foldl_cons, ih, occurrences, occurrences, List.countP_cons]
    by_cases h : rule.tagName = tag
    · simp only [h, count_note_self, decide_true, if_true]
      omega
    · simp only [count_note_of_ne (Ne.symm h), h, decide_false, Bool.false_eq_true, if_false,
        Nat.add_zero]

/-- What is looked up after the rules were counted is how often the name occurs. -/
theorem count_ofRules (rules : List TagRule) (tag : String) :
    (ofRules rules).count tag = occurrences tag rules := by
  rw [ofRules, count_foldl_note]
  exact Nat.zero_add _

end Tally

/-! ## Retained rules -/

/-- A rule that yields a component. -/
structure RetainedTag where
  rule : TagRule
  /-- The name of the variant, for a rule of a shared tag name. -/
  variant : Option String
  /-- The name that selects the component. -/
  specName : Option String
  deriving DecidableEq, Repr

namespace RetainedTag

def unchanged (rule : TagRule) : RetainedTag := ⟨rule, none, rule.specName⟩

/-- A rule of a shared tag name, which its discriminator selects. -/
def renamed (rule : TagRule) : RetainedTag :=
  ⟨rule, some (variantName rule.tagName rule.discriminator), some rule.discriminator⟩

/-- The name from which the component's name derives. -/
def sourceName (t : RetainedTag) : String := t.variant.getD t.rule.tagName

end RetainedTag

structure Retention where
  tags : List RetainedTag
  shared : SharedTags

namespace Retention

def empty : Retention := ⟨[], .empty⟩

/-- Adds one rule of the table that was counted. -/
def step (counts : Tally) (acc : Retention) (rule : TagRule) : Except Failure Retention :=
  if isBlocked rule.tagName then .ok acc
  else if counts.count rule.tagName < 2 then
    .ok { acc with tags := acc.tags ++ [.unchanged rule] }
  else
    let name := variantName rule.tagName rule.discriminator
    if (SharedTags.variants acc.shared rule.tagName).contains name then
      .error (.duplicateVariant rule.tagName rule.discriminator)
    else
      .ok ⟨acc.tags ++ [.renamed rule],
        SharedTags.register acc.shared rule.tagName name rule.discriminator⟩

/-- The rules that yield components, and the variants of the shared tag names. -/
def ofRules (rules : List TagRule) : Except Failure Retention :=
  rules.foldlM (step (.ofRules rules)) empty

end Retention
end AmpComponents
