/-
Tables are read back.

The compact text of a table is a source of this table (`parse_compact_table`).  Every record type
is written with all its fields, absent ones as `null`, so what is to be shown of each is that a
field's reader takes the text of what the field holds; `reads_record` does the rest.

An interned entry has no type of its own in the text.  A record is written as an object and a bare
text as a string, and neither is taken for the other: an object fits no text, and although every
field of a record may be absent, a string has no fields at all.
-/
import AmpComponents.Proofs.Json.Decoding
import AmpComponents.Rules.Format

namespace AmpComponents

open Json (Reads Value)

/-! ## Optional parts and lists -/

/-- An absent part is written as `null`, so the text of a part that is there may not look like
one. -/
theorem Json.reads_optional {α : Type} {read : Json.Reader α} {f : α → Value} (a : Option α)
    (h : ∀ x, a = some x → Reads read (f x).chars x ∧ (f x).chars.head? ≠ some 'n') :
    Reads (Json.readOptional read) (Value.ofOption f a).chars a := by
  cases a with
  | none =>
    rw [Value.ofOption, Value.chars]
    exact ⟨⟨'n', _, rfl, by decide, by decide⟩, fun rest _ => rfl⟩
  | some x =>
    obtain ⟨hread, hnull⟩ := h x rfl
    exact Json.decodes_some_iff.1 ((Json.decodes_some_iff.2 hread).optional hnull)

theorem Json.reads_optionalText (a : Option String) :
    Reads (Json.readOptional Json.readText) (Value.ofOption .text a).chars a := by
  apply Json.reads_optional
  intro s _
  rw [Value.chars]
  exact ⟨Json.reads_text s, by simp [Json.stringChars]⟩

theorem Json.reads_optionalBoolean (a : Option Bool) :
    Reads (Json.readOptional Json.readBoolean) (Value.ofOption .boolean a).chars a := by
  apply Json.reads_optional
  intro b _
  refine ⟨Json.reads_boolean b, ?_⟩
  cases b <;> decide

theorem Json.reads_map {α : Type} {item : Nat → Json.Reader α} {room : Nat} {f : α → Value}
    {as : List α} (h : ∀ a, Reads (item room) (f a).chars a) :
    Reads (Json.readList item (room + 1)) (Value.list (as.map f)).chars as := by
  apply Json.reads_list
  rw [List.forall₂_map_left_iff, List.forall₂_same]
  exact fun a _ => h a

/-! ## Extension specs -/

namespace ExtensionSpec

theorem labelled_schema : schema.Labelled := by
  refine ⟨by decide, fun k => ?_⟩
  cases k
  exact ⟨by decide, by decide +kernel⟩

def fieldValue (e : ExtensionSpec) : Field → Value
  | .name => .ofOption .text e.name

def content (e : ExtensionSpec) : (k : Field) → schema.Content k
  | .name => e.name

theorem reads_field (e : ExtensionSpec) (room : Nat) (k : Field) :
    Reads (schema.read room k) (e.fieldValue k).chars (e.content k) := by
  cases k with
  | name => exact Json.reads_optionalText e.name

theorem reads_toValue (e : ExtensionSpec) (room : Nat) :
    Reads (schema.readRecord (room + 1)) e.toValue.chars e :=
  Json.reads_record labelled_schema (e.reads_field room) rfl

end ExtensionSpec

/-! ## Tags -/

namespace TagRule

theorem labelled_schema : schema.Labelled := by
  refine ⟨by decide, fun k => ?_⟩
  cases k <;> exact ⟨by decide, by decide +kernel⟩

def fieldValue (rule : TagRule) : Field → Value
  | .tagName => .text rule.tagName
  | .specName => .ofOption .text rule.specName
  | .extensionSpec => .ofOption ExtensionSpec.toValue rule.extensionSpec
  | .attrs => .list (rule.attrs.map fun r => .ofInt r.toInt)
  | .requiresExtension => .ofOption Value.texts rule.requiresExtension

def content (rule : TagRule) : (k : Field) → schema.Content k
  | .tagName => rule.tagName
  | .specName => rule.specName
  | .extensionSpec => rule.extensionSpec
  | .attrs => rule.attrs
  | .requiresExtension => rule.requiresExtension

theorem reads_field (rule : TagRule) (room : Nat) (k : Field) :
    Reads (schema.read (room + 1) k) (rule.fieldValue k).chars (rule.content k) := by
  cases k with
  | tagName =>
    rw [fieldValue, Value.chars]
    exact Json.reads_text rule.tagName
  | specName => exact Json.reads_optionalText rule.specName
  | extensionSpec =>
    apply Json.reads_optional
    intro e _
    exact ⟨e.reads_toValue room, by simp [ExtensionSpec.toValue, Value.chars]⟩
  | attrs =>
    show Reads (Json.readList (fun _ => Json.readInt64) (room + 1)) _ rule.attrs
    exact Json.reads_map Json.reads_int64
  | requiresExtension =>
    apply Json.reads_optional
    intro names _
    exact ⟨Json.reads_texts room names, by simp [Value.texts, Value.chars]⟩

theorem reads_toValue (rule : TagRule) (room : Nat) :
    Reads (schema.readRecord (room + 2)) rule.toValue.chars rule :=
  Json.reads_record labelled_schema (rule.reads_field room) rfl

end TagRule

/-! ## Attributes -/

namespace AttributeRule

theorem labelled_schema : schema.Labelled := by
  refine ⟨by decide, fun k => ?_⟩
  cases k <;> exact ⟨by decide, by decide +kernel⟩

def fieldValue (rule : AttributeRule) : Field → Value
  | .name => .ofOption .text rule.name
  | .mandatory => .ofOption .boolean rule.mandatory
  | .value => .ofOption .text rule.value

def content (rule : AttributeRule) : (k : Field) → schema.Content k
  | .name => rule.name
  | .mandatory => rule.mandatory
  | .value => rule.value

theorem reads_field (rule : AttributeRule) (room : Nat) (k : Field) :
    Reads (schema.read room k) (rule.fieldValue k).chars (rule.content k) := by
  cases k with
  | name => exact Json.reads_optionalText rule.name
  | mandatory => exact Json.reads_optionalBoolean rule.mandatory
  | value => exact Json.reads_optionalText rule.value

theorem reads_toValue (rule : AttributeRule) (room : Nat) :
    Reads (schema.readRecord (room + 1)) rule.toValue.chars rule :=
  Json.reads_record labelled_schema (rule.reads_field room) rfl

theorem optionalText?_ofOption (s : Option String) :
    optionalText? (.ofOption .text s) = some s := by
  cases s <;> rfl

theorem optionalBoolean?_ofOption (b : Option Bool) :
    optionalBoolean? (.ofOption .boolean b) = some b := by
  cases b <;> rfl

/-- The object of a record fits this record. -/
theorem ofValue?_toValue (rule : AttributeRule) : ofValue? rule.toValue = some rule := by
  simp [ofValue?, toValue, memberAs?, optionalText?_ofOption, optionalBoolean?_ofOption]

theorem fits_toValue (rule : AttributeRule) (room : Nat) : rule.toValue.Fits (room + 1) := by
  have htext : ∀ s : Option String, (Value.ofOption .text s).Fits room := by
    intro s
    cases s with
    | none => exact .null room
    | some s => exact .text room s
  have hboolean : ∀ b : Option Bool, (Value.ofOption .boolean b).Fits room := by
    intro b
    cases b with
    | none => exact .null room
    | some b => exact .boolean room b
  refine .object fun m hm => ?_
  simp only [List.mem_cons, List.not_mem_nil, or_false] at hm
  rcases hm with rfl | rfl | rfl
  · exact htext rule.name
  · exact hboolean rule.mandatory
  · exact htext rule.value

end AttributeRule

/-! ## Interned entries -/

namespace InternedEntry

theorem ofValue?_toValue (e : InternedEntry) : ofValue? e.toValue = some e := by
  cases e with
  | record rule => simp only [toValue, ofValue?, rule.ofValue?_toValue]
  | text s => rfl

theorem fits_toValue (e : InternedEntry) (room : Nat) : e.toValue.Fits (room + 1) := by
  cases e with
  | record rule => exact rule.fits_toValue room
  | text s => exact .text (room + 1) s

theorem reads_toValue (e : InternedEntry) (room : Nat) :
    Reads (read (room + 1)) e.toValue.chars e := by
  have hvalue := Json.reads_value (e.fits_toValue room)
  refine ⟨hvalue.starts, fun rest hrest => ?_⟩
  rw [read, hvalue.eq rest hrest]
  simp only [bind, Except.bind, e.ofValue?_toValue]

end InternedEntry

/-! ## Tables -/

namespace RuleTable

theorem labelled_schema : schema.Labelled := by
  refine ⟨by decide, fun k => ?_⟩
  cases k <;> exact ⟨by decide, by decide +kernel⟩

def fieldValue (t : RuleTable) : Field → Value
  | .tags => .list (t.tags.map TagRule.toValue)
  | .attrs => .list (t.attrs.map AttributeRule.toValue)
  | .internedStrings => .list (t.internedStrings.map InternedEntry.toValue)

def content (t : RuleTable) : (k : Field) → schema.Content k
  | .tags => t.tags
  | .attrs => t.attrs
  | .internedStrings => t.internedStrings

theorem reads_field (t : RuleTable) (room : Nat) (k : Field) :
    Reads (schema.read (room + 3) k) (t.fieldValue k).chars (t.content k) := by
  cases k with
  | tags => exact Json.reads_map fun rule => rule.reads_toValue room
  | attrs => exact Json.reads_map fun rule => rule.reads_toValue (room + 1)
  | internedStrings => exact Json.reads_map fun e => e.reads_toValue (room + 1)

/-- The compact text of a table is a source of this table. -/
theorem parse_compact_table (t : RuleTable) : parse t.toValue.compact = .ok t := by
  have hread : Reads (schema.readRecord Json.nestingRoom) t.toValue.chars t :=
    Json.reads_record labelled_schema (t.reads_field 123) rfl
  rw [parse, parseInput, Json.Input.ofText, Value.compact, String.toList_ofList,
    Json.parse_of_reads hread]
  rfl

end RuleTable
end AmpComponents
