/-
What a record reader makes of compact text, said of the value.

A field of an object is given by the only member with its key, and by none where it is left out
(`given?`); two members with one key give nothing.  A record is then made of what is given
(`Schema.ofObject?`), and neither the order of the members nor a member without a field has a part
in it.  A list gives the fields one after another (`Schema.place`).

The reader gathers the members one by one, so the induction is on the members with the fields
read so far, and says of each field what the other members add to it (`either?`).
-/
import AmpComponents.Proofs.Json.Decoding
import AmpComponents.Proofs.Json.Skipping

namespace AmpComponents
namespace Json

/-! ## Members of one key -/

/-- What the members give to the field `key`: `some none` where none has the key, and `none` where
the field cannot be read. -/
def given? {α : Type} (decode : Value → Option α) (key : String)
    (ms : List (String × Value)) : Option (Option α) :=
  match ms.filter (·.1 = key) with
  | [] => some none
  | [(_, v)] => (decode v).map some
  | _ => none

/-- What two parts of an object give to a field: only one of them may give it. -/
def either? {α : Type} : Option (Option α) → Option (Option α) → Option (Option α)
  | some none, second => second
  | first, some none => first
  | _, _ => none

section Either

variable {α : Type} (a b c : Option (Option α))

@[simp] theorem either?_nothing : either? a (some none) = a := by
  rcases a with _ | _ | _ <;> rfl

@[simp] theorem nothing_either? : either? (some none) a = a := rfl

theorem either?_comm : either? a b = either? b a := by
  rcases a with _ | _ | _ <;> rcases b with _ | _ | _ <;> rfl

theorem either?_assoc : either? (either? a b) c = either? a (either? b c) := by
  rcases a with _ | _ | _ <;> rcases b with _ | _ | _ <;> rcases c with _ | _ | _ <;> rfl

variable {a b}

theorem exists_of_either? {d : Option α} (h : either? a b = some d) : ∃ d', a = some d' := by
  cases a with
  | none => rcases b with _ | _ | _ <;> cases h
  | some d' => exact ⟨d', rfl⟩

theorem eq_of_either? {content : α} {d : Option α} (h : either? (some (some content)) b = some d) :
    b = some none ∧ d = some content := by
  rcases b with _ | _ | _
  · cases h
  · exact ⟨rfl, (Option.some.inj h).symm⟩
  · cases h

end Either

section Given

variable {α : Type} {decode : Value → Option α} {key : String} {ms ns : List (String × Value)}

theorem given?_self (v : Value) : given? decode key [(key, v)] = (decode v).map some := by
  unfold given?
  rw [List.filter_cons_of_pos (by simp)]
  rfl

theorem given?_of_ne {name : String} (h : name ≠ key) (v : Value) :
    given? decode key [(name, v)] = some none := by
  unfold given?
  rw [List.filter_cons_of_neg (by simpa using h)]
  rfl

theorem given?_cons (m : String × Value) :
    given? decode key (m :: ms) = either? (given? decode key [m]) (given? decode key ms) := by
  obtain ⟨name, v⟩ := m
  by_cases h : name = key
  · subst h
    rw [given?_self]
    unfold given?
    rw [List.filter_cons_of_pos (by simp)]
    generalize ms.filter (·.1 = name) = same
    rcases same with _ | ⟨⟨_, w⟩, _ | _⟩
    · exact (either?_nothing _).symm
    · show none = either? _ ((decode w).map some)
      cases decode v <;> cases decode w <;> rfl
    · cases decode v <;> rfl
  · rw [given?_of_ne h, nothing_either?, given?, given?, List.filter_cons_of_neg (by simpa using h)]

theorem given?_perm (h : ms.Perm ns) : given? decode key ms = given? decode key ns := by
  induction h with
  | nil => rfl
  | cons m _ ih => rw [given?_cons, ih, ← given?_cons]
  | swap m m' ms =>
    rw [given?_cons, given?_cons m, ← either?_assoc, either?_comm (given? _ _ [m']),
      either?_assoc, ← given?_cons, ← given?_cons]
  | trans _ _ ih ih' => exact ih.trans ih'

/-- A member can be looked at first, wherever it stands. -/
theorem given?_insert (m : String × Value) (front back : List (String × Value)) :
    given? decode key (front ++ m :: back) =
      either? (given? decode key [m]) (given? decode key (front ++ back)) := by
  rw [given?_perm List.perm_middle, given?_cons]

end Given

/-! ## Fields -/

section Objects

variable {κ ρ : Type} (S : Schema κ ρ) (decode : (k : κ) → Value → Option (S.Content k))

/-- The record of an object. -/
def Schema.ofObject? (ms : List (String × Value)) : Option ρ :=
  if S.fields.all fun k => (given? (decode k) (S.label k) ms).isSome then
    (S.finish (fun k => .missingField (S.label k)) fun k =>
      (given? (decode k) (S.label k) ms).join).toOption
  else Option.none

/-- The fields with what one member adds. -/
def Schema.gather [DecidableEq κ] (fields : S.Fields) (m : String × Value) : Option S.Fields :=
  match S.field? m.1 with
  | some k => if (fields k).isSome then Option.none else (decode k m.2).map (S.set fields k)
  | Option.none => if S.closed then Option.none else some fields

variable {S decode} {room : Nat} {ms : List (String × Value)}

theorem Schema.label_eq_of_field? {name : String} {k : κ} (h : S.field? name = some k) :
    S.label k = name := by
  simpa using List.find?_some h

theorem Schema.Labelled.label_ne (hS : S.Labelled) {j k : κ} (h : j ≠ k) :
    S.label k ≠ S.label j := by
  intro heq
  have hfield := (hS.2 k).2
  rw [heq, (hS.2 j).2] at hfield
  exact h (Option.some.inj hfield)

theorem Schema.ofObject?_eq_some_iff (hS : S.Labelled) {r : ρ} :
    S.ofObject? decode ms = some r ↔
      ∃ fields : S.Fields, (∀ k, given? (decode k) (S.label k) ms = some (fields k)) ∧
        S.finish (fun k => .missingField (S.label k)) fields = .ok r := by
  unfold Schema.ofObject?
  constructor
  · intro h
    split at h
    · next hall =>
      refine ⟨_, fun k => ?_, toOption_eq_some_iff.1 h⟩
      obtain ⟨o, ho⟩ := Option.isSome_iff_exists.1 (List.all_eq_true.1 hall k (hS.2 k).1)
      rw [ho]
      rfl
    · cases h
  · rintro ⟨fields, hgiven, hfinish⟩
    have hjoin : (fun k => (given? (decode k) (S.label k) ms).join) = fields :=
      funext fun k => by rw [hgiven k]; rfl
    rw [if_pos (List.all_eq_true.2 fun k _ => by rw [hgiven k]; rfl), hjoin]
    exact toOption_eq_some_iff.2 hfinish

theorem some_eq_some_iff_forall {fields final : S.Fields} :
    some fields = some final ↔ ∀ k, some (fields k) = some (final k) := by
  simp only [Option.some.injEq]
  exact funext_iff

variable [DecidableEq κ]

/-- One member behind its key. -/
theorem toOption_readMember (hread : ∀ k v, v.Formed → Decodes (S.read room k) v.chars (decode k v))
    {m : String × Value} (hm : m.2.Formed) (fields : S.Fields) {rest : Input}
    (hrest : Follows rest) :
    (S.readMember room m.1 fields (.char ':' :: (Input.ofChars m.2.chars ++ rest))).toOption =
      (S.gather decode fields m).map (·, rest) := by
  have hcolon : readColon (.char ':' :: (Input.ofChars m.2.chars ++ rest)) =
      .ok (Input.ofChars m.2.chars ++ rest) := rfl
  unfold Schema.readMember Schema.gather
  cases S.field? m.1 with
  | none =>
    cases S.closed with
    | true => rfl
    | false =>
      simp only [hcolon, bind, Except.bind, skipValue_chars hm hrest]
      rfl
  | some k =>
    cases hpresent : (fields k).isSome with
    | true =>
      simp only [hpresent, if_true]
      rfl
    | false =>
      simp only [hpresent, hcolon]
      show (S.read room k _ >>= _).toOption = _
      rw [toOption_bind, (hread k m.2 hm).eq rest hrest]
      cases decode k m.2 <;> rfl

/-- One member gives what it has to its own field. -/
theorem gather_eq_some_iff (hS : S.Labelled) (hopen : S.closed = false) {fields next : S.Fields}
    (m : String × Value) :
    S.gather decode fields m = some next ↔
      ∀ k, either? (some (fields k)) (given? (decode k) (S.label k) [m]) = some (next k) := by
  obtain ⟨name, v⟩ := m
  unfold Schema.gather
  cases hfield : S.field? name with
  | none =>
    have hne : ∀ k, name ≠ S.label k := by
      rintro k rfl
      rw [(hS.2 k).2] at hfield
      cases hfield
    simp only [hopen, given?_of_ne (hne _), either?_nothing]
    exact some_eq_some_iff_forall
  | some k =>
    obtain rfl := Schema.label_eq_of_field? hfield
    have hself : given? (decode k) (S.label k) [(S.label k, v)] = (decode k v).map some :=
      given?_self v
    cases hpresent : fields k with
    | some content =>
      simp only [hpresent]
      refine ⟨nofun, fun h => absurd (h k) ?_⟩
      rw [hpresent, hself]
      cases decode k v <;> exact nofun
    | none =>
      cases hdecode : decode k v with
      | none =>
        simp only [hpresent, hdecode]
        refine ⟨nofun, fun h => absurd (h k) ?_⟩
        rw [hpresent, hself, hdecode]
        exact nofun
      | some content =>
        have hset : ∀ j, either? (some (fields j)) (given? (decode j) (S.label j) [(S.label k, v)]) =
            some (S.set fields k content j) := by
          intro j
          by_cases hj : j = k
          · subst hj
            rw [hpresent, hself, hdecode, set_self]
            rfl
          · rw [given?_of_ne (hS.label_ne hj), either?_nothing, set_of_ne fields hj]
        simp only [hset, hpresent, hdecode]
        exact some_eq_some_iff_forall

/-- The induction is on the members, for any fields read before them. -/
theorem foldlM_gather_eq_some_iff (hS : S.Labelled) (hopen : S.closed = false)
    {fields final : S.Fields} :
    ms.foldlM (S.gather decode) fields = some final ↔
      ∀ k, either? (some (fields k)) (given? (decode k) (S.label k) ms) = some (final k) := by
  induction ms generalizing fields with
  | nil =>
    have hnil : ∀ k, given? (decode k) (S.label k) [] = some Option.none := fun _ => rfl
    simp only [hnil, either?_nothing]
    exact some_eq_some_iff_forall
  | cons m ms ih =>
    have hcons : ∀ k, either? (some (fields k)) (given? (decode k) (S.label k) (m :: ms)) =
        either? (either? (some (fields k)) (given? (decode k) (S.label k) [m]))
          (given? (decode k) (S.label k) ms) := fun k => by rw [given?_cons, either?_assoc]
    simp only [List.foldlM_cons, hcons]
    constructor
    · intro h k
      obtain ⟨next, hnext, hrest⟩ := Option.bind_eq_some_iff.1 h
      rw [(gather_eq_some_iff hS hopen m).1 hnext k]
      exact ih.1 hrest k
    · intro h
      choose next hnext using fun k => exists_of_either? (h k)
      refine Option.bind_eq_some_iff.2 ⟨next, (gather_eq_some_iff hS hopen m).2 hnext, ?_⟩
      exact ih.2 fun k => by rw [← hnext k]; exact h k

/-- An object is read as its record. -/
theorem toOption_readObject (hS : S.Labelled) (hopen : S.closed = false)
    (hread : ∀ k v, v.Formed → Decodes (S.read room k) v.chars (decode k v))
    (hms : ∀ m ∈ ms, m.2.Formed) (rest : Input) :
    (S.readObject room (Input.ofChars (Value.memberChars ms) ++ .char '\x7d' :: rest)).toOption =
      (S.ofObject? decode ms).map (·, rest) := by
  have hruns : Runs (S.readMember room) S.none ms (ms.foldlM (S.gather decode) S.none) :=
    runs_foldlM (fun m hm fields rest hrest => toOption_readMember hread (hms m hm) fields hrest) _
  have hrecord : S.ofObject? decode ms = ms.foldlM (S.gather decode) S.none >>= fun fields =>
      (S.finish (fun k => .missingField (S.label k)) fields).toOption := by
    ext r
    rw [Schema.ofObject?_eq_some_iff hS]
    simp only [Option.bind_eq_bind, Option.bind_eq_some_iff, foldlM_gather_eq_some_iff hS hopen,
      toOption_eq_some_iff, Schema.none, nothing_either?]
  rw [hrecord, Schema.readObject, toOption_bind, toOption_readObjectBody hruns]
  cases ms.foldlM (S.gather decode) S.none with
  | none => rfl
  | some fields =>
    show (S.finish _ fields >>= fun r => .ok (r, rest)).toOption = (S.finish _ fields).toOption.map _
    cases S.finish (fun k => .missingField (S.label k)) fields <;> rfl

end Objects

/-! ## Fields in their order -/

section Lists

variable {κ ρ : Type} [DecidableEq κ] (S : Schema κ ρ)
  (decode : (k : κ) → Value → Option (S.Content k))

/-- The fields with items placed in `ks`, which may be more than the items. -/
def Schema.place : List κ → S.Fields → List Value → Option S.Fields
  | _, fields, [] => some fields
  | [], _, _ :: _ => Option.none
  | k :: ks, fields, v :: vs =>
    (decode k v).bind fun content => Schema.place ks (S.set fields k content) vs

/-- The record of a list. -/
def Schema.ofList? (vs : List Value) : Option ρ :=
  (S.place decode S.fields S.none vs).bind fun fields =>
    (S.finish (fun k => .wrongLength (S.fields.idxOf k) S.title S.fields.length) fields).toOption

variable {S decode} {room : Nat} {vs : List Value}

/-- Nothing may follow the last field. -/
theorem toOption_readListEnd {c : Char} {tail : Input} (hspace : isSpace c = false)
    (hbracket : c ≠ ']') : (Schema.readListEnd (.char c :: tail)).toOption = none := by
  rw [Schema.readListEnd, skipSpace_of_not_space hspace]
  split
  · rfl
  · next heq => exact absurd (Symbol.char.inj (List.cons.inj heq).1) hbracket
  · split <;> rfl
  · rfl

/-- The induction is on the fields still to come. -/
theorem toOption_readMoreFields
    (hread : ∀ k v, v.Formed → Decodes (S.read room k) v.chars (decode k v))
    (hvs : ∀ v ∈ vs, v.Formed) (ks : List κ) (fields : S.Fields) (rest : Input) :
    (S.readMoreFields room ks fields
        (Input.ofChars (itemsBehind vs) ++ .char ']' :: rest)).toOption =
      (S.place decode ks fields vs).map (·, rest) := by
  induction ks generalizing fields vs with
  | nil =>
    cases vs with
    | nil => rfl
    | cons v vs =>
      show (Schema.readListEnd (.char ',' :: _) >>= _).toOption = _
      rw [toOption_bind, toOption_readListEnd (by decide) (by decide)]
      rfl
  | cons k ks ih =>
    cases vs with
    | nil => rfl
    | cons v vs =>
      obtain ⟨hv, hvs⟩ := List.forall_mem_cons.1 hvs
      obtain ⟨c, tail, hstart, hspace, hbracket⟩ := itemChars_cons_starts hv.starts vs
      have hitem := (hread k v hv).eq_itemChars vs rest
      rw [itemsBehind]
      rw [hstart, Input.ofChars_cons, List.cons_append] at hitem
      rw [hstart, Input.ofChars_cons, Input.ofChars_cons, List.cons_append, List.cons_append,
        Schema.readMoreFields, skipSpace_of_not_space (by decide)]
      simp only [skipSpace_of_not_space hspace]
      split
      · next heq => cases heq
      · next heq => exact absurd (Symbol.char.inj (List.cons.inj heq).1) hbracket
      · rw [toOption_bind, hitem, Schema.place]
        cases decode k v with
        | none => rfl
        | some content => exact ih hvs _

theorem toOption_readFields
    (hread : ∀ k v, v.Formed → Decodes (S.read room k) v.chars (decode k v))
    (hvs : ∀ v ∈ vs, v.Formed) (rest : Input) :
    (S.readFields room (Input.ofChars (Value.itemChars vs) ++ .char ']' :: rest)).toOption =
      (S.place decode S.fields S.none vs).map (·, rest) := by
  unfold Schema.readFields
  cases vs with
  | nil => cases S.fields <;> rfl
  | cons v vs =>
    obtain ⟨hv, hvs⟩ := List.forall_mem_cons.1 hvs
    obtain ⟨c, tail, hstart, hspace, hbracket⟩ := itemChars_cons_starts hv.starts vs
    cases S.fields with
    | nil =>
      rw [hstart, Input.ofChars_cons, List.cons_append]
      show (Schema.readListEnd _ >>= _).toOption = _
      rw [toOption_bind, toOption_readListEnd hspace hbracket]
      rfl
    | cons k ks =>
      have hitem := (hread k v hv).eq_itemChars vs rest
      rw [hstart, Input.ofChars_cons, List.cons_append] at hitem ⊢
      simp only [skipSpace_of_not_space hspace]
      split
      · next heq => cases heq
      · next heq => exact absurd (Symbol.char.inj (List.cons.inj heq).1) hbracket
      · rw [toOption_bind, hitem, Schema.place]
        cases decode k v with
        | none => rfl
        | some content => exact toOption_readMoreFields hread hvs ks _ rest

/-- A list is read as its record. -/
theorem toOption_readPositional
    (hread : ∀ k v, v.Formed → Decodes (S.read room k) v.chars (decode k v))
    (hvs : ∀ v ∈ vs, v.Formed) (rest : Input) :
    (S.readPositional room (Input.ofChars (Value.itemChars vs) ++ .char ']' :: rest)).toOption =
      (S.ofList? decode vs).map (·, rest) := by
  rw [Schema.readPositional, toOption_bind, toOption_readFields hread hvs, Schema.ofList?]
  cases S.place decode S.fields S.none vs with
  | none => rfl
  | some fields =>
    show (S.finish _ fields >>= fun r => .ok (r, rest)).toOption = (S.finish _ fields).toOption.map _
    cases S.finish (fun k => .wrongLength (S.fields.idxOf k) S.title S.fields.length) fields <;> rfl

end Lists

/-! ## Records -/

section Records

variable {κ ρ : Type} [DecidableEq κ] (S : Schema κ ρ)
  (decode : (k : κ) → Value → Option (S.Content k))

/-- The record of a value. -/
def Schema.ofValue? : Value → Option ρ
  | .object ms => S.ofObject? decode ms
  | .list vs => S.ofList? decode vs
  | _ => Option.none

variable {S decode} {room : Nat} {v : Value}

theorem Schema.ofValue?_of_ne (hlist : ¬ ∃ items, v = .list items)
    (hobject : ¬ ∃ members, v = .object members) : S.ofValue? decode v = Option.none := by
  unfold Schema.ofValue?
  split
  · next ms => exact absurd ⟨ms, rfl⟩ hobject
  · next vs => exact absurd ⟨vs, rfl⟩ hlist
  · rfl

/-- A record in either form. -/
theorem decodes_record (hS : S.Labelled) (hopen : S.closed = false)
    (hread : ∀ k v, v.Formed → Decodes (S.read room k) v.chars (decode k v)) (hv : v.Formed) :
    Decodes (S.readRecord (room + 1)) v.chars (S.ofValue? decode v) := by
  refine ⟨hv.starts, fun rest _ => ?_⟩
  by_cases hlist : ∃ items, v = .list items
  · obtain ⟨items, rfl⟩ := hlist
    rw [ofChars_list, Schema.readRecord, skipSpace_of_not_space (by decide)]
    exact toOption_readPositional hread (Value.formed_list_iff.1 hv) rest
  by_cases hobject : ∃ members, v = .object members
  · obtain ⟨members, rfl⟩ := hobject
    rw [ofChars_object, Schema.readRecord, skipSpace_of_not_space (by decide)]
    exact toOption_readObject hS hopen hread (Value.formed_object_iff.1 hv) rest
  obtain ⟨c, tail, hchars, hspace, -, hopens, hopens'⟩ := hv.opens
  rw [Schema.ofValue?_of_ne hlist hobject, hchars, Input.ofChars_cons, List.cons_append,
    Schema.readRecord, skipSpace_of_not_space hspace]
  split
  · next heq => exact absurd (hopens (Symbol.char.inj (List.cons.inj heq).1)) hlist
  · next heq => exact absurd (hopens' (Symbol.char.inj (List.cons.inj heq).1)) hobject
  · rfl

end Records

end Json
end AmpComponents
