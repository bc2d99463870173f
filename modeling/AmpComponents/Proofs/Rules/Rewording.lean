/-
Sources that are worded differently load the same table.

`RuleTable.Rewords` is one change to the value of a table: to the object of the table, of a tag, of
the extension spec of a tag, of an attribute record or of an interned record.  Whatever number of
such changes leads from one value to another, a table that the first loads as is what the second
loads as (`parse_compact_of_rewords`).

An interned record is read as a value of any shape before it is taken for a record, so what is added
to it has to fit in the room that is left there; everywhere else what is added is passed over.
-/
import AmpComponents.Proofs.Json.Rewording
import AmpComponents.Proofs.Rules.Decoding

namespace AmpComponents

open Json (Value InMember InItem Keeps optional?)

/-! ## Records of a table -/

theorem ExtensionSpec.keeps_rewords {depth : Nat} :
    Keeps (ExtensionSpec.schema.Rewords depth) ExtensionSpec.ofValue? := by
  refine Json.keeps_rewords ExtensionSpec.labelled_schema fun k content hfill => ?_
  cases k
  exact hfill

theorem AttributeRule.keeps_rewords {depth : Nat} :
    Keeps (AttributeRule.schema.Rewords depth) AttributeRule.ofValue? := by
  have h : Keeps (AttributeRule.schema.Rewords depth)
      (AttributeRule.schema.ofValue? AttributeRule.decode) := by
    refine Json.keeps_rewords AttributeRule.labelled_schema fun k content hfill => ?_
    cases k <;> exact hfill
  rw [show AttributeRule.ofValue? = AttributeRule.schema.ofValue? AttributeRule.decode from
    funext AttributeRule.ofValue?_eq]
  exact h

/-- One change to the value of a tag. -/
inductive TagRule.Rewords (depth : Nat) : Value → Value → Prop where
  | tag {v w : Value} (h : TagRule.schema.Rewords depth v w) : Rewords depth v w
  | extensionSpec {v w : Value}
    (h : InMember "extensionSpec" (ExtensionSpec.schema.Rewords depth) v w) : Rewords depth v w

theorem TagRule.keeps_rewords {depth : Nat} : Keeps (TagRule.Rewords depth) TagRule.ofValue? := by
  have htag : Keeps (TagRule.schema.Rewords depth) TagRule.ofValue? := by
    refine Json.keeps_rewords TagRule.labelled_schema fun k content hfill => ?_
    cases k <;> exact hfill
  have hspec : Keeps (InMember "extensionSpec" (ExtensionSpec.schema.Rewords depth))
      TagRule.ofValue? := by
    have hpart : Keeps (ExtensionSpec.schema.Rewords depth) (TagRule.decode .extensionSpec) :=
      ExtensionSpec.keeps_rewords.optional Json.Schema.Rewords.ne_null
    exact Json.keeps_inMember TagRule.labelled_schema hpart
  constructor
  · rintro v w (h | h)
    · exact htag.formed h
    · exact hspec.formed h
  · rintro v w rule (h | h)
    · exact htag.decode h
    · exact hspec.decode h

/-- An object is no text, so all that it can be is a record. -/
theorem InternedEntry.ofValue?_object (ms : List (String × Value)) :
    InternedEntry.ofValue? (.object ms) =
      (AttributeRule.ofValue? (.object ms)).map InternedEntry.record := by
  unfold InternedEntry.ofValue?
  cases AttributeRule.ofValue? (.object ms) <;> rfl

theorem InternedEntry.keeps_rewords {depth room : Nat} (hroom : depth ≤ room) :
    Keeps (AttributeRule.schema.Rewords depth) (InternedEntry.kept? (room + 1)) where
  formed := Json.Schema.Rewords.formed
  decode := by
    intro v w e h he
    obtain ⟨kept, hkept, hentry⟩ := Option.bind_eq_some_iff.1 he
    obtain ⟨hfits, rfl⟩ := Value.keep?_eq_some_iff.1 hkept
    have hrule : ∀ rule, AttributeRule.ofValue? v = some rule → AttributeRule.ofValue? w = some rule :=
      fun _ => AttributeRule.keeps_rewords.decode h
    rw [InternedEntry.kept?, Value.keep?_of_fits (h.fits hroom hfits)]
    obtain ⟨ms, ns, rfl, rfl, -⟩ := h.members
    rw [InternedEntry.ofValue?_object] at hentry
    obtain ⟨rule, hv, rfl⟩ := Option.map_eq_some_iff.1 hentry
    rw [Option.bind_some, InternedEntry.ofValue?_object, hrule rule hv]
    rfl

/-! ## Tables -/

/-- One change to the value of a table. -/
inductive RuleTable.Rewords (depth : Nat) : Value → Value → Prop where
  | table {v w : Value} (h : RuleTable.schema.Rewords depth v w) : Rewords depth v w
  | tag {v w : Value} (h : InMember "tags" (InItem (TagRule.Rewords depth)) v w) :
    Rewords depth v w
  | attribute {v w : Value}
    (h : InMember "attrs" (InItem (AttributeRule.schema.Rewords depth)) v w) : Rewords depth v w
  | interned {v w : Value}
    (h : InMember "internedStrings" (InItem (AttributeRule.schema.Rewords depth)) v w) :
    Rewords depth v w

namespace RuleTable

theorem keeps_rewords {depth : Nat} (hdepth : depth ≤ 124) :
    Keeps (Rewords depth) RuleTable.ofValue? := by
  have htable : Keeps (schema.Rewords depth) RuleTable.ofValue? :=
    Json.keeps_rewords labelled_schema fun _ _ hfill => nomatch hfill
  have htag : Keeps (InMember "tags" (InItem (TagRule.Rewords depth))) RuleTable.ofValue? := by
    have hpart : Keeps (InItem (TagRule.Rewords depth)) (decode .tags) :=
      TagRule.keeps_rewords.list
    exact Json.keeps_inMember labelled_schema hpart
  have hattribute : Keeps (InMember "attrs" (InItem (AttributeRule.schema.Rewords depth)))
      RuleTable.ofValue? := by
    have hpart : Keeps (InItem (AttributeRule.schema.Rewords depth)) (decode .attrs) :=
      AttributeRule.keeps_rewords.list
    exact Json.keeps_inMember labelled_schema hpart
  have hinterned : Keeps (InMember "internedStrings"
      (InItem (AttributeRule.schema.Rewords depth))) RuleTable.ofValue? := by
    have hpart : Keeps (InItem (AttributeRule.schema.Rewords depth)) (decode .internedStrings) :=
      (InternedEntry.keeps_rewords hdepth).list
    exact Json.keeps_inMember labelled_schema hpart
  constructor
  · rintro v w (h | h | h | h)
    · exact htable.formed h
    · exact htag.formed h
    · exact hattribute.formed h
    · exact hinterned.formed h
  · rintro v w t (h | h | h | h)
    · exact htable.decode h
    · exact htag.decode h
    · exact hattribute.decode h
    · exact hinterned.decode h

/-- A table that is loaded from a value is loaded from every rewording of it.  The changes may be any
number, in any order; what they add nests at most a hundred times. -/
theorem parse_compact_of_rewords {v w : Value} {t : RuleTable} (hformed : v.Formed)
    (h : parse v.compact = .ok t) (hrun : Relation.ReflTransGen (Rewords 100) v w) :
    parse w.compact = .ok t := by
  have hdecode : RuleTable.ofValue? v = some t := (parse_compact_eq_ok_iff hformed).1 h
  obtain ⟨hformed', hdecode'⟩ := (keeps_rewords (by decide)).run hrun hformed hdecode
  exact (parse_compact_eq_ok_iff hformed').2 hdecode'

/-- A table of one tag and one interned record. -/
def smallValue (tag interned : Value) : Value :=
  .object [("tags", .list [tag]), ("attrs", .list []), ("internedStrings", .list [interned])]

def plainValue : Value :=
  smallValue (.object [("tagName", .text "amp-a"), ("specName", .null), ("attrs", .list [])])
    (.object [("name", .text "b")])

def plainTable : RuleTable where
  tags := [⟨"amp-a", none, none, [], none⟩]
  attrs := []
  internedStrings := [.record ⟨some "b", none, none⟩]

/-- The tag leaves out its spec name, both records have a note, and the attributes stand first. -/
def annotatedValue : Value :=
  .object
    [("attrs", .list []),
     ("tags", .list [.object
      [("tagName", .text "amp-a"), ("attrs", .list []), ("note", .list [.null])]]),
     ("internedStrings", .list [.object [("note", .object []), ("name", .text "b")]])]

theorem formed_plainValue : plainValue.Formed := by
  simp [plainValue, smallValue, Value.formed_object_iff, Value.formed_list_iff, Value.Formed.null,
    Value.Formed.text]

theorem parse_compact_plainValue : parse plainValue.compact = .ok plainTable := by
  have hfits : (Value.object [("name", .text "b")]).Fits 125 := by
    simp [Value.fits_object_iff, Value.Fits.text]
  have hentry : InternedEntry.kept? 125 (.object [("name", .text "b")]) =
      some (.record ⟨some "b", none, none⟩) := by
    rw [InternedEntry.kept?, Value.keep?_of_fits hfits]
    rfl
  rw [parse_compact_eq_ok_iff formed_plainValue]
  refine (Json.Schema.ofObject?_eq_some_iff labelled_schema).2
    ⟨fun k => some (plainTable.content k), fun k => ?_, rfl⟩
  cases k with
  | tags => rfl
  | attrs => rfl
  | internedStrings =>
    show ((([_].map (InternedEntry.kept? 125)).mapM id).map some) = _
    rw [List.map_singleton, hentry]
    rfl

section Steps

variable {depth : Nat} {tag tag' interned interned' : Value}

theorem rewords_tag (h : TagRule.Rewords depth tag tag') :
    Rewords depth (smallValue tag interned) (smallValue tag' interned) :=
  .tag (.intro (.intro h [] []) [] _)

theorem rewords_interned (h : AttributeRule.schema.Rewords depth interned interned') :
    Rewords depth (smallValue tag interned) (smallValue tag interned') :=
  .interned (.intro (.intro h [] []) [_, _] [])

end Steps

theorem rewords_annotatedValue :
    Relation.ReflTransGen (Rewords 100) plainValue annotatedValue := by
  have hlist : (Value.list [.null]).Fits 100 := by simp [Value.fits_list_iff, Value.Fits.null]
  have hobject : (Value.object []).Fits 100 := by simp [Value.fits_object_iff]
  have hdrop : TagRule.Rewords 100
      (.object [("tagName", .text "amp-a"), ("specName", .null), ("attrs", .list [])])
      (.object [("tagName", .text "amp-a"), ("attrs", .list [])]) :=
    .tag (.dropNull (k := TagRule.Field.specName) rfl [_] [_])
  have htag : TagRule.Rewords 100 (.object [("tagName", .text "amp-a"), ("attrs", .list [])])
      (.object [("tagName", .text "amp-a"), ("attrs", .list []), ("note", .list [.null])]) :=
    .tag (.addUnknown (by decide) hlist [_, _] [])
  have hinterned : AttributeRule.schema.Rewords 100 (.object [("name", .text "b")])
      (.object [("note", .object []), ("name", .text "b")]) :=
    .addUnknown (by decide) hobject [] [_]
  have hswap : Rewords 100
      (smallValue (.object [("tagName", .text "amp-a"), ("attrs", .list []), ("note", .list [.null])])
        (.object [("note", .object []), ("name", .text "b")])) annotatedValue :=
    .table (.permute (.swap _ _ _))
  exact .head (rewords_tag hdrop) (.head (rewords_tag htag) (.head (rewords_interned hinterned)
    (.single hswap)))

theorem parse_compact_annotatedValue : parse annotatedValue.compact = .ok plainTable :=
  parse_compact_of_rewords formed_plainValue parse_compact_plainValue rewords_annotatedValue

end RuleTable
end AmpComponents
