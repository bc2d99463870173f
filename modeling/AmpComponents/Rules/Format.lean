/-
Rule tables as JSON.

Each record type has a schema for reading and a value for writing.  Reading ignores members it
does not know and takes `null` for an absent optional field; writing gives every field, in the
order of declaration.

An interned entry has no type of its own in the source.  It is read as a value of any shape and
then taken as a record if its members fit one, and as a text if it is one.
-/
import AmpComponents.Json.Schema
import AmpComponents.Json.Value.Reading
import AmpComponents.Rules

namespace AmpComponents

open Json (Value Schema Reader Fault)

/-! ## Extension specs -/

inductive ExtensionSpec.Field where
  | name
  deriving DecidableEq

def ExtensionSpec.schema : Schema ExtensionSpec.Field ExtensionSpec where
  title := "ExtensionSpec"
  fields := [.name]
  label | .name => "name"
  Content | .name => Option String
  read _ | .name => Json.readOptional Json.readText
  fill | .name => some none
  closed := false
  build get := do return ⟨← get .name⟩

def ExtensionSpec.toValue (e : ExtensionSpec) : Value :=
  .object [("name", .ofOption .text e.name)]

/-! ## Tags -/

inductive TagRule.Field where
  | tagName
  | specName
  | extensionSpec
  | attrs
  | requiresExtension
  deriving DecidableEq

def TagRule.schema : Schema TagRule.Field TagRule where
  title := "TagDefinition"
  fields := [.tagName, .specName, .extensionSpec, .attrs, .requiresExtension]
  label
    | .tagName => "tagName"
    | .specName => "specName"
    | .extensionSpec => "extensionSpec"
    | .attrs => "attrs"
    | .requiresExtension => "requiresExtension"
  Content
    | .tagName => String
    | .specName => Option String
    | .extensionSpec => Option ExtensionSpec
    | .attrs => List Int64
    | .requiresExtension => Option (List String)
  read room
    | .tagName => Json.readText
    | .specName => Json.readOptional Json.readText
    | .extensionSpec => Json.readOptional (ExtensionSpec.schema.readRecord room)
    | .attrs => Json.readList (fun _ => Json.readInt64) room
    | .requiresExtension => Json.readOptional (Json.readList (fun _ => Json.readText) room)
  fill
    | .tagName => none
    | .specName => some none
    | .extensionSpec => some none
    | .attrs => none
    | .requiresExtension => some none
  closed := false
  build get := do
    return ⟨← get .tagName, ← get .specName, ← get .extensionSpec, ← get .attrs,
      ← get .requiresExtension⟩

def TagRule.toValue (rule : TagRule) : Value :=
  .object
    [("tagName", .text rule.tagName),
     ("specName", .ofOption .text rule.specName),
     ("extensionSpec", .ofOption ExtensionSpec.toValue rule.extensionSpec),
     ("attrs", .list (rule.attrs.map fun r => .ofInt r.toInt)),
     ("requiresExtension", .ofOption Value.texts rule.requiresExtension)]

/-! ## Attributes -/

inductive AttributeRule.Field where
  | name
  | mandatory
  | value
  deriving DecidableEq

def AttributeRule.schema : Schema AttributeRule.Field AttributeRule where
  title := "AttributeRecord"
  fields := [.name, .mandatory, .value]
  label
    | .name => "name"
    | .mandatory => "mandatory"
    | .value => "value"
  Content
    | .name => Option String
    | .mandatory => Option Bool
    | .value => Option String
  read _
    | .name => Json.readOptional Json.readText
    | .mandatory => Json.readOptional Json.readBoolean
    | .value => Json.readOptional Json.readText
  fill
    | .name => some none
    | .mandatory => some none
    | .value => some none
  closed := false
  build get := do return ⟨← get .name, ← get .mandatory, ← get .value⟩

def AttributeRule.toValue (rule : AttributeRule) : Value :=
  .object
    [("name", .ofOption .text rule.name),
     ("mandatory", .ofOption .boolean rule.mandatory),
     ("value", .ofOption .text rule.value)]

/-! ## Interned entries

A value fits an attribute record when it is an object in which each known key stands at most
once and holds the right type, or a list of at most three fields. -/

/-- A text or `null`. -/
def optionalText? : Value → Option (Option String)
  | .null => some none
  | .text s => some (some s)
  | _ => none

/-- A boolean or `null`. -/
def optionalBoolean? : Value → Option (Option Bool)
  | .null => some none
  | .boolean b => some (some b)
  | _ => none

/-- The optional field `key` of an object. -/
def memberAs? {α : Type} (decode : Value → Option (Option α)) (key : String)
    (members : List (String × Value)) : Option (Option α) :=
  match members.filter (·.1 = key) with
  | [] => some none
  | [(_, v)] => decode v
  | _ => none

/-- The optional field at place `i` of a list. -/
def itemAs? {α : Type} (decode : Value → Option (Option α)) (i : Nat) (items : List Value) :
    Option (Option α) :=
  match items[i]? with
  | none => some none
  | some v => decode v

def AttributeRule.ofValue? : Value → Option AttributeRule
  | .object members => do
    return ⟨← memberAs? optionalText? "name" members,
      ← memberAs? optionalBoolean? "mandatory" members,
      ← memberAs? optionalText? "value" members⟩
  | .list items =>
    if items.length ≤ 3 then do
      return ⟨← itemAs? optionalText? 0 items, ← itemAs? optionalBoolean? 1 items,
        ← itemAs? optionalText? 2 items⟩
    else none
  | _ => none

namespace InternedEntry

def ofValue? (v : Value) : Option InternedEntry :=
  match AttributeRule.ofValue? v, v with
  | some rule, _ => some (.record rule)
  | none, .text s => some (.text s)
  | none, _ => none

def read (room : Nat) : Reader InternedEntry := fun s => do
  let (v, s) ← Json.readValue room s
  match ofValue? v with
  | some entry => .ok (entry, s)
  | none => .error (.noVariant "InternedEntry")

def toValue : InternedEntry → Value
  | record rule => rule.toValue
  | text s => .text s

end InternedEntry

/-! ## Tables -/

inductive RuleTable.Field where
  | tags
  | attrs
  | internedStrings
  deriving DecidableEq

namespace RuleTable

def schema : Schema RuleTable.Field RuleTable where
  title := "RuleTable"
  fields := [.tags, .attrs, .internedStrings]
  label
    | .tags => "tags"
    | .attrs => "attrs"
    | .internedStrings => "internedStrings"
  Content
    | .tags => List TagRule
    | .attrs => List AttributeRule
    | .internedStrings => List InternedEntry
  read room
    | .tags => Json.readList TagRule.schema.readRecord room
    | .attrs => Json.readList AttributeRule.schema.readRecord room
    | .internedStrings => Json.readList InternedEntry.read room
  fill _ := none
  closed := false
  build get := do return ⟨← get .tags, ← get .attrs, ← get .internedStrings⟩

def toValue (t : RuleTable) : Value :=
  .object
    [("tags", .list (t.tags.map TagRule.toValue)),
     ("attrs", .list (t.attrs.map AttributeRule.toValue)),
     ("internedStrings", .list (t.internedStrings.map InternedEntry.toValue))]

/-- A table from its source. -/
def parseInput (s : Json.Input) : Except Failure RuleTable :=
  (Json.parse schema.readRecord s).mapError .schemaMismatch

def parse (source : String) : Except Failure RuleTable := parseInput (.ofText source)

/-- A table from bytes that are read as they come, so that a string that is not UTF-8 is a fault of
the notation. -/
def parseBytes (bytes : ByteArray) : Except Failure RuleTable := parseInput (.ofBytes bytes)

end RuleTable
end AmpComponents
