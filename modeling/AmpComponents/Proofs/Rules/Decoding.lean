/-
What a source of compact text is a table of.

For every record type there is a partial function from values, put together from those of its
fields, and what reads the compact text of a value gives what this function gives
(`parse_compact_eq_ok_iff`).  How deep a value nests matters in one place only: interned entries
are read as values of any shape first, so they have to fit in what room is left there.

What is then taken for an attribute record is what the reader of attribute records would have
taken (`AttributeRule.ofValue?_eq`).
-/
import AmpComponents.Proofs.Json.Records
import AmpComponents.Proofs.Rules.Format

namespace AmpComponents

open Json (Value Decodes text? boolean? int64? optional? list?)

/-! ## Extension specs -/

namespace ExtensionSpec

def decode : (k : Field) → Value → Option (schema.Content k)
  | .name => optional? text?

def ofValue? (v : Value) : Option ExtensionSpec := schema.ofValue? decode v

theorem decodes_field {v : Value} (hv : v.Formed) (room : Nat) (k : Field) :
    Decodes (schema.read room k) v.chars (decode k v) := by
  cases k with
  | name => exact Json.decodes_optional hv (Json.decodes_text hv)

theorem decodes_ofValue? {v : Value} (hv : v.Formed) (room : Nat) :
    Decodes (schema.readRecord (room + 1)) v.chars (ofValue? v) :=
  Json.decodes_record labelled_schema rfl (fun k _ hw => decodes_field hw room k) hv

end ExtensionSpec

/-! ## Tags -/

namespace TagRule

def decode : (k : Field) → Value → Option (schema.Content k)
  | .tagName => text?
  | .specName => optional? text?
  | .extensionSpec => optional? ExtensionSpec.ofValue?
  | .attrs => list? int64?
  | .requiresExtension => optional? (list? text?)

def ofValue? (v : Value) : Option TagRule := schema.ofValue? decode v

theorem decodes_field {v : Value} (hv : v.Formed) (room : Nat) (k : Field) :
    Decodes (schema.read (room + 1) k) v.chars (decode k v) := by
  cases k with
  | tagName => exact Json.decodes_text hv
  | specName => exact Json.decodes_optional hv (Json.decodes_text hv)
  | extensionSpec => exact Json.decodes_optional hv (ExtensionSpec.decodes_ofValue? hv room)
  | attrs =>
    show Decodes (Json.readList (fun _ => Json.readInt64) (room + 1)) _ _
    exact Json.decodes_list hv fun _ => Json.decodes_int64
  | requiresExtension =>
    have hlist : Decodes (Json.readList (fun _ => Json.readText) (room + 1)) v.chars
        (list? text? v) := Json.decodes_list hv fun _ => Json.decodes_text
    exact Json.decodes_optional hv hlist

theorem decodes_ofValue? {v : Value} (hv : v.Formed) (room : Nat) :
    Decodes (schema.readRecord (room + 2)) v.chars (ofValue? v) :=
  Json.decodes_record labelled_schema rfl (fun k _ hw => decodes_field hw room k) hv

end TagRule

/-! ## Attributes -/

namespace AttributeRule

def decode : (k : Field) → Value → Option (schema.Content k)
  | .name => optional? text?
  | .mandatory => optional? boolean?
  | .value => optional? text?

theorem decodes_field {v : Value} (hv : v.Formed) (room : Nat) (k : Field) :
    Decodes (schema.read room k) v.chars (decode k v) := by
  cases k with
  | name => exact Json.decodes_optional hv (Json.decodes_text hv)
  | mandatory => exact Json.decodes_optional hv (Json.decodes_boolean hv)
  | value => exact Json.decodes_optional hv (Json.decodes_text hv)

theorem decodes_record {v : Value} (hv : v.Formed) (room : Nat) :
    Decodes (schema.readRecord (room + 1)) v.chars (schema.ofValue? decode v) :=
  Json.decodes_record labelled_schema rfl (fun k _ hw => decodes_field hw room k) hv

theorem optionalText?_eq : optionalText? = optional? text? := by
  funext v
  cases v <;> rfl

theorem optionalBoolean?_eq : optionalBoolean? = optional? boolean? := by
  funext v
  cases v <;> rfl

theorem memberAs?_eq {α : Type} (decode : Value → Option (Option α)) (key : String)
    (ms : List (String × Value)) :
    memberAs? decode key ms = (Json.given? decode key ms).map Option.join := by
  unfold memberAs? Json.given?
  generalize ms.filter (·.1 = key) = same
  rcases same with _ | ⟨⟨_, v⟩, _ | _⟩
  · rfl
  · show decode v = ((decode v).map some).map Option.join
    cases decode v <;> rfl
  · rfl

section Items

variable {α : Type} (decode : Value → Option (Option α)) (v : Value) (vs : List Value) (i : Nat)

theorem itemAs?_nil : itemAs? decode i [] = some none := rfl

theorem itemAs?_zero : itemAs? decode 0 (v :: vs) = decode v := rfl

theorem itemAs?_succ : itemAs? decode (i + 1) (v :: vs) = itemAs? decode i vs := rfl

end Items

/-- Every field may be absent, so a record is finished whatever was read. -/
theorem finish_eq (absent : Field → Json.Fault) (fields : schema.Fields) :
    schema.finish absent fields =
      .ok ⟨(fields .name).join, (fields .mandatory).join, (fields .value).join⟩ := by
  unfold Json.Schema.finish
  show (do
    let name ← _
    let mandatory ← _
    let value ← _
    return (⟨name, mandatory, value⟩ : AttributeRule)) = _
  dsimp only
  cases fields .name <;> cases fields .mandatory <;> cases fields .value <;> rfl

theorem ofValue?_object (ms : List (String × Value)) :
    ofValue? (.object ms) = schema.ofObject? decode ms := by
  simp only [ofValue?, memberAs?_eq, optionalText?_eq, optionalBoolean?_eq]
  ext r
  rw [Json.Schema.ofObject?_eq_some_iff labelled_schema]
  simp only [finish_eq]
  constructor
  · intro h
    simp only [Option.bind_eq_bind, Option.bind_eq_some_iff, Option.map_eq_some_iff] at h
    obtain ⟨_, ⟨name, hname, rfl⟩, _, ⟨mandatory, hmandatory, rfl⟩, _, ⟨value, hvalue, rfl⟩, h⟩ := h
    refine ⟨fun | .name => name | .mandatory => mandatory | .value => value, fun k => ?_, ?_⟩
    · cases k
      · exact hname
      · exact hmandatory
      · exact hvalue
    · exact congrArg Except.ok (Option.some.inj h)
  · rintro ⟨fields, hgiven, h⟩
    have hname : Json.given? (optional? text?) "name" ms = some (fields .name) := hgiven .name
    have hmandatory : Json.given? (optional? boolean?) "mandatory" ms = some (fields .mandatory) :=
      hgiven .mandatory
    have hvalue : Json.given? (optional? text?) "value" ms = some (fields .value) := hgiven .value
    rw [hname, hmandatory, hvalue]
    exact congrArg some (Except.ok.inj h)

theorem ofValue?_list (vs : List Value) :
    ofValue? (.list vs) = schema.ofList? decode vs := by
  rw [ofValue?, optionalText?_eq, optionalBoolean?_eq, Json.Schema.ofList?]
  simp only [finish_eq]
  show _ = (schema.place decode [.name, .mandatory, .value] schema.none vs).bind _
  -- One case for every number of fields, and one for a list that is too long.
  rcases vs with _ | ⟨a, _ | ⟨b, _ | ⟨c, _ | ⟨d, vs⟩⟩⟩⟩
  · rfl
  · rw [if_pos (by simp)]
    simp only [Json.Schema.place, decode, itemAs?_zero, itemAs?_succ, itemAs?_nil]
    cases optional? text? a <;> rfl
  · rw [if_pos (by simp)]
    simp only [Json.Schema.place, decode, itemAs?_zero, itemAs?_succ, itemAs?_nil]
    cases optional? text? a <;> cases optional? boolean? b <;> rfl
  · rw [if_pos (by simp)]
    simp only [Json.Schema.place, decode, itemAs?_zero, itemAs?_succ]
    cases optional? text? a <;> cases optional? boolean? b <;> cases optional? text? c <;> rfl
  · rw [if_neg (by simp)]
    simp only [Json.Schema.place, decode]
    cases optional? text? a <;> cases optional? boolean? b <;> cases optional? text? c <;> rfl

/-- A buffered value is taken for the record that the reader of records takes it for. -/
theorem ofValue?_eq (v : Value) : ofValue? v = schema.ofValue? decode v := by
  cases v with
  | object ms => exact ofValue?_object ms
  | list vs => exact ofValue?_list vs
  | _ => rfl

end AttributeRule

/-! ## Interned entries -/

namespace InternedEntry

/-- An entry is read as a value of any shape first. -/
noncomputable def kept? (room : Nat) (v : Value) : Option InternedEntry :=
  (v.keep? room).bind ofValue?

theorem decodes_kept? {v : Value} (hv : v.Formed) (room : Nat) :
    Decodes (read room) v.chars (kept? room v) := by
  refine ⟨hv.starts, fun rest hrest => ?_⟩
  rw [read, Json.toOption_bind, (Json.decodes_value hv room).eq rest hrest, kept?]
  cases v.keep? room with
  | none => rfl
  | some w =>
    rw [Option.map_some, Option.bind_some, Option.bind_some]
    dsimp only
    cases ofValue? w <;> rfl

end InternedEntry

/-! ## Tables -/

namespace RuleTable

/-- Entries of a table stand in two brackets. -/
noncomputable def decode : (k : Field) → Value → Option (schema.Content k)
  | .tags => list? TagRule.ofValue?
  | .attrs => list? AttributeRule.ofValue?
  | .internedStrings => list? (InternedEntry.kept? 125)

noncomputable def ofValue? (v : Value) : Option RuleTable := schema.ofValue? decode v

theorem decodes_field {v : Value} (hv : v.Formed) (k : Field) :
    Decodes (schema.read 126 k) v.chars (decode k v) := by
  cases k with
  | tags => exact Json.decodes_list hv fun w hw => TagRule.decodes_ofValue? hw 123
  | attrs =>
    refine Json.decodes_list hv fun w hw => ?_
    rw [AttributeRule.ofValue?_eq]
    exact AttributeRule.decodes_record hw 124
  | internedStrings => exact Json.decodes_list hv fun w hw => InternedEntry.decodes_kept? hw 125

/-- The compact text of a value is a source of the table that the value stands for, and of no
other. -/
theorem parse_compact_eq_ok_iff {v : Value} (hv : v.Formed) {t : RuleTable} :
    parse v.compact = .ok t ↔ ofValue? v = some t := by
  have hread : Decodes (schema.readRecord Json.nestingRoom) v.chars (ofValue? v) :=
    Json.decodes_record labelled_schema rfl (fun k _ hw => decodes_field hw k) hv
  rw [← Json.toOption_parse hread, Json.toOption_eq_some_iff, parse, parseInput,
    Json.Input.ofText, Value.compact, String.toList_ofList]
  cases Json.parse schema.readRecord (Json.Input.ofChars v.chars) with
  | ok table => simp [Except.mapError]
  | error fault => simp [Except.mapError]

end RuleTable
end AmpComponents
