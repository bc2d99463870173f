/-
Compact text is read back.

`Reads read text a` says that a reader takes the text from the front of any input and gives `a`.
The input behind the text has to be one that can follow a value, since a number has no end of
its own.  Texts with this property are put together the way values are: from the texts of the
items or of the members comes the text of the list or of the record (`reads_list`,
`reads_record`), and a whole source that consists of such a text is parsed (`parse_of_reads`).

`Decodes` says the same of a reader that may refuse the text as well.  What reads a list or an
object follows its parts up to the first that is refused (`toOption_readListBody`,
`toOption_readObjectBody`), and texts that are read are the case in which none is.

A record is written with every field, so what is asked of a schema is that its labels tell the
fields apart.  The members are gathered one by one; `Runs` is the run of a member reader over the
members of an object, and `Gathers` one that takes them all.
-/
import AmpComponents.Json.Schema
import AmpComponents.Proofs.Text.Pieces
import Mathlib.Data.List.Forall2

namespace AmpComponents
namespace Json

/-! ## Strings -/

section StringBody

variable (text : List Char) (intact : Bool)

theorem readStringBody_quote (rest : Input) :
    readStringBody text true (.char '"' :: rest) = .ok (text.reverse, rest) := by
  rw [readStringBody, if_pos rfl, if_pos rfl]

theorem readStringBody_escape {s rest : Input} {c : Char} (h : readEscape s = .ok (c, rest)) :
    readStringBody text intact (.char '\\' :: s) = readStringBody (c :: text) intact rest := by
  rw [readStringBody, if_neg (by decide), if_pos rfl]
  split
  · next heq =>
    rw [h] at heq
    cases heq
  · next heq =>
    rw [h] at heq
    cases heq
    rfl

theorem readStringBody_plain {c : Char} (hquote : c ≠ '"') (hback : c ≠ '\\')
    (hcontrol : 0x20 ≤ c.toNat) (rest : Input) :
    readStringBody text intact (.char c :: rest) = readStringBody (c :: text) intact rest := by
  rw [readStringBody, if_neg hquote, if_neg hback, if_neg (Nat.not_lt.2 hcontrol)]

theorem readEscape_letter {letter c : Char} (h : simpleEscape? letter = some c) (rest : Input) :
    readEscape (.char letter :: rest) = .ok (c, rest) := by
  rw [readEscape, h]

/-- No character is a surrogate, so four digits name one at once. -/
theorem readEscape_fourDigits {c : Char} (h : c.toNat < 0x10000) (rest : Input) :
    readEscape (.char 'u' :: .char (Text.hexDigit (c.toNat / 4096 % 16)) ::
      .char (Text.hexDigit (c.toNat / 256 % 16)) :: .char (Text.hexDigit (c.toNat / 16 % 16)) ::
      .char (Text.hexDigit (c.toNat % 16)) :: rest) = .ok (c, rest) := by
  have digit : ∀ k, Text.hexValue? (Text.hexDigit (k % 16)) = some (k % 16) := fun k =>
    Text.hexValue?_hexDigit (Nat.mod_lt k (by omega))
  have sum : ((c.toNat / 4096 % 16 * 16 + c.toNat / 256 % 16) * 16 + c.toNat / 16 % 16) * 16
      + c.toNat % 16 = c.toNat := by omega
  have hvalid : c.toNat < 0xD800 ∨ 0xDFFF < c.toNat ∧ c.toNat < 0x110000 := c.valid
  have hhigh : isHighSurrogate c.toNat = false := by
    simp only [isHighSurrogate, Bool.and_eq_false_iff, decide_eq_false_iff_not]
    omega
  have hlow : isLowSurrogate c.toNat = false := by
    simp only [isLowSurrogate, Bool.and_eq_false_iff, decide_eq_false_iff_not]
    omega
  have hletter : simpleEscape? 'u' = none := by decide
  rw [readEscape, hletter]
  show (if 'u' = 'u' then readUnicodeEscape _ else _) = _
  rw [if_pos rfl, readUnicodeEscape, readQuad]
  simp [digit, sum, bind, Except.bind, pure, Except.pure, hhigh, hlow, Char.ofNat_toNat]

/-- A written character is read as that character. -/
theorem readStringBody_of_isPiece {c : Char} {piece : List Char} (h : Text.IsPiece '"' c piece)
    (rest : Input) : readStringBody text intact (Input.ofChars piece ++ rest) =
      readStringBody (c :: text) intact rest := by
  cases h with
  | letter h =>
    have hnames : ∀ p ∈ ('"', '"') :: Text.letterNames, simpleEscape? p.1 = some p.2 := by decide
    exact readStringBody_escape text intact (readEscape_letter (hnames _ h) rest)
  | digits hsmall => exact readStringBody_escape text intact (readEscape_fourDigits hsmall rest)
  | plain hquote hback hcontrol => exact readStringBody_plain text intact hquote hback hcontrol rest

theorem readStringBody_flatMap (s : List Char) (rest : Input) :
    readStringBody text true (Input.ofChars (s.flatMap stringChar) ++ .char '"' :: rest) =
      .ok (text.reverse ++ s, rest) := by
  induction s generalizing text with
  | nil =>
    rw [List.append_nil]
    exact readStringBody_quote text rest
  | cons c s ih =>
    rw [List.flatMap_cons, Input.ofChars_append, List.append_assoc,
      readStringBody_of_isPiece text true (Text.isPiece_stringChar c), ih, List.reverse_cons,
      List.append_assoc, List.singleton_append]

end StringBody

theorem ofChars_stringChars (s : String) (rest : Input) :
    Input.ofChars (stringChars s) ++ rest =
      .char '"' :: (Input.ofChars (s.toList.flatMap stringChar) ++ .char '"' :: rest) := by
  rw [stringChars, Input.ofChars_append, Input.ofChars_cons, List.append_assoc]
  rfl

/-- A written string is read back behind its opening quote. -/
theorem readString_flatMap (s : String) (rest : Input) :
    readString (Input.ofChars (s.toList.flatMap stringChar) ++ .char '"' :: rest) =
      .ok (s, rest) := by
  rw [readString, readStringBody_flatMap]
  simp [bind, Except.bind, pure, Except.pure]

/-! ## Values -/

/-- What may follow a value: the end, a comma or a closing bracket. -/
def Follows : Input → Prop
  | [] => True
  | .char c :: _ => c = ',' ∨ c = ']' ∨ c = '\x7d'
  | .stray _ :: _ => False

theorem follows_comma (rest : Input) : Follows (.char ',' :: rest) := .inl rfl

theorem follows_bracket (rest : Input) : Follows (.char ']' :: rest) := .inr (.inl rfl)

theorem follows_brace (rest : Input) : Follows (.char '\x7d' :: rest) := .inr (.inr rfl)

/-- A reader takes this text from the front of an input, and gives this. -/
structure Reads {α : Type} (read : Reader α) (text : List Char) (a : α) : Prop where
  /-- No blank stands in front, and the text closes no list. -/
  starts : ∃ c tail, text = c :: tail ∧ isSpace c = false ∧ c ≠ ']'
  eq : ∀ rest, Follows rest → read (Input.ofChars text ++ rest) = .ok (a, rest)

theorem skipSpace_of_not_space {c : Char} (h : isSpace c = false) (rest : Input) :
    skipSpace (.char c :: rest) = .char c :: rest := by
  rw [skipSpace, h]
  rfl

theorem reads_text (s : String) : Reads readText (stringChars s) s := by
  refine ⟨⟨'"', _, rfl, by decide, by decide⟩, fun rest _ => ?_⟩
  rw [ofChars_stringChars, readText, skipSpace_of_not_space (by decide)]
  exact readString_flatMap s rest

theorem reads_boolean (b : Bool) : Reads readBoolean (Value.boolean b).chars b := by
  cases b with
  | true => exact ⟨⟨'t', _, rfl, by decide, by decide⟩, fun rest _ => rfl⟩
  | false => exact ⟨⟨'f', _, rfl, by decide, by decide⟩, fun rest _ => rfl⟩

/-! ## Outcomes -/

theorem toOption_bind {ε α β : Type} (x : Except ε α) (f : α → Except ε β) :
    (x >>= f).toOption = x.toOption.bind fun a => (f a).toOption := by
  cases x <;> rfl

theorem toOption_eq_some_iff {ε α : Type} {x : Except ε α} {a : α} :
    x.toOption = some a ↔ x = .ok a := by
  cases x <;> simp [Except.toOption]

/-- What a reader makes of a text, whatever follows it: what the text stands for, or a failure
where `decoded` is nothing.  Which fault it gives is left open. -/
structure Decodes {α : Type} (read : Reader α) (text : List Char) (decoded : Option α) :
    Prop where
  /-- No blank stands in front, and the text closes no list. -/
  starts : ∃ c tail, text = c :: tail ∧ isSpace c = false ∧ c ≠ ']'
  eq : ∀ rest, Follows rest →
    (read (Input.ofChars text ++ rest)).toOption = decoded.map (·, rest)

theorem decodes_some_iff {α : Type} {read : Reader α} {text : List Char} {a : α} :
    Decodes read text (some a) ↔ Reads read text a := by
  constructor
  · intro h
    exact ⟨h.starts, fun rest hrest => toOption_eq_some_iff.1 (h.eq rest hrest)⟩
  · intro h
    exact ⟨h.starts, fun rest hrest => toOption_eq_some_iff.2 (h.eq rest hrest)⟩

/-- Where a value may be absent, its text may not look like `null`. -/
theorem Decodes.optional {α : Type} {read : Reader α} {text : List Char} {decoded : Option α}
    (h : Decodes read text decoded) (hnull : text.head? ≠ some 'n') :
    Decodes (readOptional read) text (decoded.map some) := by
  obtain ⟨c, tail, rfl, hspace, -⟩ := h.starts
  refine ⟨h.starts, fun rest hrest => ?_⟩
  have hread := h.eq rest hrest
  rw [Input.ofChars_cons, List.cons_append] at hread ⊢
  rw [readOptional, skipSpace_of_not_space hspace]
  split
  · next heq => exact absurd (congrArg some (Symbol.char.inj (List.cons.inj heq).1)) hnull
  · rw [toOption_bind, hread]
    cases decoded <;> rfl

/-- A source that is one text. -/
theorem toOption_parse {α : Type} {read : Nat → Reader α} {text : List Char} {decoded : Option α}
    (h : Decodes (read nestingRoom) text decoded) :
    (parse read (Input.ofChars text)).toOption = decoded := by
  have hread := h.eq [] trivial
  rw [List.append_nil] at hread
  rw [parse, readWhole?, toOption_bind, hread]
  cases decoded <;> rfl

theorem parse_of_reads {α : Type} {read : Nat → Reader α} {text : List Char} {a : α}
    (h : Reads (read nestingRoom) text a) : parse read (Input.ofChars text) = .ok a :=
  toOption_eq_some_iff.1 (toOption_parse (decodes_some_iff.2 h))

/-! ## Lists -/

theorem itemChars_cons (v : Value) {vs : List Value} (hne : vs ≠ []) :
    Value.itemChars (v :: vs) = v.chars ++ ',' :: Value.itemChars vs := by
  obtain ⟨w, rest, rfl⟩ := List.exists_cons_of_ne_nil hne
  rw [Value.itemChars]

/-- What stands behind the first item. -/
def itemsBehind : List Value → List Char
  | [] => []
  | v :: vs => ',' :: Value.itemChars (v :: vs)

theorem itemsBehind_of_ne {vs : List Value} (hne : vs ≠ []) :
    itemsBehind vs = ',' :: Value.itemChars vs := by
  obtain ⟨v, vs, rfl⟩ := List.exists_cons_of_ne_nil hne
  rfl

theorem itemChars_eq_append (v : Value) (vs : List Value) :
    Value.itemChars (v :: vs) = v.chars ++ itemsBehind vs := by
  cases vs with
  | nil => rw [Value.itemChars, itemsBehind, List.append_nil]
  | cons w vs => rw [Value.itemChars, itemsBehind]

theorem follows_itemsBehind (vs : List Value) (rest : Input) :
    Follows (Input.ofChars (itemsBehind vs) ++ .char ']' :: rest) := by
  cases vs with
  | nil => exact follows_bracket rest
  | cons v vs => exact follows_comma _

/-- There is a comma between any two items. -/
theorem length_le_itemChars (vs : List Value) : vs.length ≤ (Value.itemChars vs).length + 1 := by
  induction vs with
  | nil => exact Nat.zero_le _
  | cons v vs ih =>
    by_cases hvs : vs = []
    · subst hvs
      exact Nat.succ_le_succ (Nat.zero_le _)
    · rw [itemChars_cons v hvs, List.length_append, List.length_cons, List.length_cons]
      omega

/-- The first item starts the text of the items. -/
theorem itemChars_cons_starts {v : Value}
    (h : ∃ c tail, v.chars = c :: tail ∧ isSpace c = false ∧ c ≠ ']') (vs : List Value) :
    ∃ c tail, Value.itemChars (v :: vs) = c :: tail ∧ isSpace c = false ∧ c ≠ ']' := by
  obtain ⟨c, tail, hv, hspace, hbracket⟩ := h
  refine ⟨c, tail ++ itemsBehind vs, ?_, hspace, hbracket⟩
  rw [itemChars_eq_append, hv, List.cons_append]

/-- The first item is read up to what stands behind it. -/
theorem Decodes.eq_itemChars {α : Type} {read : Reader α} {v : Value} {decoded : Option α}
    (h : Decodes read v.chars decoded) (vs : List Value) (rest : Input) :
    (read (Input.ofChars (Value.itemChars (v :: vs)) ++ .char ']' :: rest)).toOption =
      decoded.map (·, Input.ofChars (itemsBehind vs) ++ .char ']' :: rest) := by
  rw [itemChars_eq_append, Input.ofChars_append, List.append_assoc,
    h.eq _ (follows_itemsBehind vs rest)]

section Lists

variable {α : Type} {item : Reader α} {vs : List Value} {decoded : List (Option α)} {as : List α}

theorem itemChars_starts (h : List.Forall₂ (fun v o => Decodes item v.chars o) vs decoded)
    (hne : vs ≠ []) : ∃ c tail, Value.itemChars vs = c :: tail ∧ isSpace c = false ∧ c ≠ ']' := by
  cases h with
  | nil => exact absurd rfl hne
  | cons hitem _ => exact itemChars_cons_starts hitem.starts _

/-- Every item takes one symbol of the budget. -/
theorem toOption_readItems (h : List.Forall₂ (fun v o => Decodes item v.chars o) vs decoded)
    (hne : vs ≠ []) {budget : Input} (hbudget : vs.length ≤ budget.length) (rest : Input) :
    (readItems item budget (Input.ofChars (Value.itemChars vs) ++ .char ']' :: rest)).toOption =
      (decoded.mapM id).map (·, rest) := by
  induction h generalizing budget with
  | nil => exact absurd rfl hne
  | @cons v o vs decoded hitem hitems ih =>
    obtain _ | ⟨symbol, budget⟩ := budget
    · exact absurd hbudget (by simp)
    rw [List.mapM_cons, readItems, toOption_bind, hitem.eq_itemChars]
    cases o with
    | none => rfl
    | some a =>
      by_cases hlast : vs = []
      · subst hlast
        cases hitems
        rfl
      · have hless : vs.length ≤ budget.length := by simpa using hbudget
        have htail := ih hlast hless
        obtain ⟨c, tail, hstart, hspace, hbracket⟩ := itemChars_starts hitems hlast
        rw [itemsBehind_of_ne hlast, Input.ofChars_cons, List.cons_append]
        rw [hstart, Input.ofChars_cons, List.cons_append] at htail ⊢
        simp only [Option.map_some, Option.bind_some,
          skipSpace_of_not_space (show isSpace ',' = false by decide),
          skipSpace_of_not_space hspace]
        split
        · next heq => cases heq
        · next heq => exact absurd (Symbol.char.inj (List.cons.inj heq).1) hbracket
        · rw [toOption_bind, htail]
          cases List.mapM id decoded <;> rfl

theorem toOption_readListBody (h : List.Forall₂ (fun v o => Decodes item v.chars o) vs decoded)
    (rest : Input) :
    (readListBody item (Input.ofChars (Value.itemChars vs) ++ .char ']' :: rest)).toOption =
      (decoded.mapM id).map (·, rest) := by
  by_cases hvs : vs = []
  · subst hvs
    cases h
    rfl
  · have hlength : vs.length ≤
        (Input.ofChars (Value.itemChars vs) ++ .char ']' :: rest).length := by
      have hle := length_le_itemChars vs
      rw [List.length_append, Input.ofChars, List.length_map, List.length_cons]
      omega
    have hread := toOption_readItems h hvs hlength rest
    obtain ⟨c, tail, hstart, hspace, hbracket⟩ := itemChars_starts h hvs
    rw [hstart, Input.ofChars_cons, List.cons_append] at hread ⊢
    rw [readListBody, skipSpace_of_not_space hspace]
    split
    · next heq => cases heq
    · next heq =>
      cases heq
      exact absurd rfl hbracket
    · exact hread

theorem readListBody_itemChars (h : List.Forall₂ (fun v a => Reads item v.chars a) vs as)
    (rest : Input) :
    readListBody item (Input.ofChars (Value.itemChars vs) ++ .char ']' :: rest) =
      .ok (as, rest) := by
  have hdecodes : List.Forall₂ (fun v o => Decodes item v.chars o) vs (as.map some) := by
    rw [List.forall₂_map_right_iff]
    exact h.imp fun _ _ => decodes_some_iff.2
  have hall : (as.map some).mapM id = some as := by
    rw [List.mapM_map]
    exact (List.mapM_pure (f := id)).trans (congrArg some (List.map_id as))
  rw [← toOption_eq_some_iff, toOption_readListBody hdecodes, hall]
  rfl

end Lists

theorem ofChars_list (vs : List Value) (rest : Input) :
    Input.ofChars (Value.list vs).chars ++ rest =
      .char '[' :: (Input.ofChars (Value.itemChars vs) ++ .char ']' :: rest) := by
  rw [Value.chars, Input.ofChars_append, Input.ofChars_cons, List.append_assoc]
  rfl

theorem reads_list {α : Type} {item : Nat → Reader α} {room : Nat} {vs : List Value} {as : List α}
    (h : List.Forall₂ (fun v a => Reads (item room) v.chars a) vs as) :
    Reads (readList item (room + 1)) (Value.list vs).chars as := by
  refine ⟨⟨'[', Value.itemChars vs ++ [']'], by rw [Value.chars, List.cons_append], by decide,
    by decide⟩, fun rest _ => ?_⟩
  rw [ofChars_list, readList, skipSpace_of_not_space (by decide)]
  exact readListBody_itemChars h rest

theorem reads_texts (room : Nat) (l : List String) :
    Reads (readList (fun _ => readText) (room + 1)) (Value.texts l).chars l := by
  apply reads_list
  rw [List.forall₂_map_left_iff, List.forall₂_same]
  intro s _
  rw [Value.chars]
  exact reads_text s

/-! ## Objects -/

section Members

variable {σ : Type} {member : String → σ → Reader σ} {start final : σ} {outcome : Option σ}
  {ms : List (String × Value)}

/-- The run of a member reader over members in their order, up to the first that it refuses. -/
inductive Runs (member : String → σ → Reader σ) :
    σ → List (String × Value) → Option σ → Prop where
  | nil (gathered : σ) : Runs member gathered [] (some gathered)
  | cons {gathered next : σ} {outcome : Option σ} {key : String} {v : Value}
      {ms : List (String × Value)}
      (hmember : ∀ rest, Follows rest → (member key gathered
        (.char ':' :: (Input.ofChars v.chars ++ rest))).toOption = some (next, rest))
      (hrest : Runs member next ms outcome) : Runs member gathered ((key, v) :: ms) outcome
  | stop {gathered : σ} {key : String} {v : Value} (ms : List (String × Value))
      (hmember : ∀ rest, Follows rest → (member key gathered
        (.char ':' :: (Input.ofChars v.chars ++ rest))).toOption = none) :
      Runs member gathered ((key, v) :: ms) none

/-- A member reader that takes what `step` does of each member runs along the fold. -/
theorem runs_foldlM {step : σ → String × Value → Option σ}
    (h : ∀ m ∈ ms, ∀ gathered rest, Follows rest → (member m.1 gathered
      (.char ':' :: (Input.ofChars m.2.chars ++ rest))).toOption =
        (step gathered m).map (·, rest)) (start : σ) :
    Runs member start ms (ms.foldlM step start) := by
  induction ms generalizing start with
  | nil => exact .nil start
  | cons m ms ih =>
    obtain ⟨hm, hms⟩ := List.forall_mem_cons.1 h
    rw [List.foldlM_cons]
    cases hstep : step start m with
    | none => exact .stop ms fun rest hrest => by rw [hm start rest hrest, hstep]; rfl
    | some next =>
      exact .cons (fun rest hrest => by rw [hm start rest hrest, hstep]; rfl) (ih hms next)

/-- The run of a member reader over members that it takes. -/
inductive Gathers (member : String → σ → Reader σ) : σ → List (String × Value) → σ → Prop where
  | nil (gathered : σ) : Gathers member gathered [] gathered
  | cons {gathered next final : σ} {key : String} {v : Value} {ms : List (String × Value)}
      (hmember : ∀ rest, Follows rest →
        member key gathered (.char ':' :: (Input.ofChars v.chars ++ rest)) = .ok (next, rest))
      (hrest : Gathers member next ms final) : Gathers member gathered ((key, v) :: ms) final

theorem Gathers.runs (h : Gathers member start ms final) :
    Runs member start ms (some final) := by
  induction h with
  | nil gathered => exact .nil gathered
  | cons hmember _ ih =>
    exact .cons (fun rest hrest => toOption_eq_some_iff.2 (hmember rest hrest)) ih

theorem memberChars_cons (key : String) (v : Value) (hne : ms ≠ []) :
    Value.memberChars ((key, v) :: ms) =
      stringChars key ++ ':' :: v.chars ++ ',' :: Value.memberChars ms := by
  obtain ⟨m, rest, rfl⟩ := List.exists_cons_of_ne_nil hne
  rw [Value.memberChars]

/-- What stands behind the first member. -/
def membersBehind : List (String × Value) → List Char
  | [] => []
  | m :: ms => ',' :: Value.memberChars (m :: ms)

theorem membersBehind_of_ne (hne : ms ≠ []) : membersBehind ms = ',' :: Value.memberChars ms := by
  obtain ⟨m, ms, rfl⟩ := List.exists_cons_of_ne_nil hne
  rfl

theorem memberChars_eq_append (key : String) (v : Value) (ms : List (String × Value)) :
    Value.memberChars ((key, v) :: ms) =
      stringChars key ++ ':' :: v.chars ++ membersBehind ms := by
  cases ms with
  | nil => rw [Value.memberChars, membersBehind, List.append_nil]
  | cons m ms => rw [Value.memberChars, membersBehind]

theorem follows_membersBehind (ms : List (String × Value)) (rest : Input) :
    Follows (Input.ofChars (membersBehind ms) ++ .char '\x7d' :: rest) := by
  cases ms with
  | nil => exact follows_brace rest
  | cons m ms => exact follows_comma _

/-- The text of members starts with the quote of the first key. -/
theorem memberChars_starts (hne : ms ≠ []) : ∃ tail, Value.memberChars ms = '"' :: tail := by
  obtain ⟨⟨key, v⟩, rest, rfl⟩ := List.exists_cons_of_ne_nil hne
  cases rest with
  | nil => exact ⟨_, rfl⟩
  | cons m rest => exact ⟨_, rfl⟩

theorem length_le_memberChars (ms : List (String × Value)) :
    ms.length ≤ (Value.memberChars ms).length := by
  induction ms with
  | nil => exact Nat.le_refl 0
  | cons m ms ih =>
    obtain ⟨key, v⟩ := m
    by_cases hms : ms = []
    · subst hms
      simp [Value.memberChars, stringChars]
    · rw [memberChars_cons key v hms, List.length_append, List.length_cons, List.length_cons]
      omega

/-- What is done behind the value of a member. -/
def afterMember (member : String → σ → Reader σ) (budget : Input) (next : σ × Input) :
    Except Fault (σ × Input) :=
  match skipSpace next.2 with
  | [] => .error .endInObject
  | .char '\x7d' :: s => .ok (next.1, s)
  | .char ',' :: s =>
    match skipSpace s with
    | [] => .error .endInValue
    | .char '\x7d' :: _ => .error .trailingComma
    | s => readMembers member budget next.1 s
  | _ :: _ => .error .expectedObjectCommaOrEnd

theorem readMembers_cons (member : String → σ → Reader σ) (start : σ) (symbol : Symbol)
    (budget : Input) (key : String) (v : Value) (ms : List (String × Value)) (rest : Input) :
    readMembers member (symbol :: budget) start
        (Input.ofChars (Value.memberChars ((key, v) :: ms)) ++ rest) =
      member key start (.char ':' :: (Input.ofChars v.chars ++
        (Input.ofChars (membersBehind ms) ++ rest))) >>= afterMember member budget := by
  rw [memberChars_eq_append, List.append_assoc, Input.ofChars_append, List.append_assoc,
    ofChars_stringChars, readMembers, readString_flatMap, List.cons_append, Input.ofChars_cons,
    Input.ofChars_append, List.cons_append, List.append_assoc]
  rfl

/-- Every member takes one symbol of the budget. -/
theorem toOption_readMembers (h : Runs member start ms outcome) (hne : ms ≠ []) {budget : Input}
    (hbudget : ms.length ≤ budget.length) (rest : Input) :
    (readMembers member budget start
        (Input.ofChars (Value.memberChars ms) ++ .char '\x7d' :: rest)).toOption =
      outcome.map (·, rest) := by
  induction h generalizing budget with
  | nil gathered => exact absurd rfl hne
  | @cons start next outcome key v ms hmember hrest ih =>
    obtain _ | ⟨symbol, budget⟩ := budget
    · exact absurd hbudget (by simp)
    rw [readMembers_cons, toOption_bind, hmember _ (follows_membersBehind ms rest)]
    by_cases hlast : ms = []
    · subst hlast
      cases hrest
      rfl
    · have hless : ms.length ≤ budget.length := by simpa using hbudget
      have htail := ih hlast hless
      obtain ⟨tail, hstart⟩ := memberChars_starts hlast
      rw [membersBehind_of_ne hlast]
      rw [hstart, Input.ofChars_cons, List.cons_append] at htail ⊢
      exact htail
  | @stop start key v ms hmember =>
    obtain _ | ⟨symbol, budget⟩ := budget
    · exact absurd hbudget (by simp)
    rw [readMembers_cons, toOption_bind, hmember _ (follows_membersBehind ms rest)]
    rfl

theorem toOption_readObjectBody (h : Runs member start ms outcome) (rest : Input) :
    (readObjectBody member start
        (Input.ofChars (Value.memberChars ms) ++ .char '\x7d' :: rest)).toOption =
      outcome.map (·, rest) := by
  by_cases hms : ms = []
  · subst hms
    cases h
    rfl
  · have hlength : ms.length ≤
        (Input.ofChars (Value.memberChars ms) ++ .char '\x7d' :: rest).length := by
      have hle := length_le_memberChars ms
      rw [List.length_append, Input.ofChars, List.length_map]
      omega
    have hread := toOption_readMembers h hms hlength rest
    obtain ⟨tail, hstart⟩ := memberChars_starts hms
    rw [hstart, Input.ofChars_cons, List.cons_append] at hread ⊢
    rw [readObjectBody, skipSpace_of_not_space (by decide)]
    exact hread

theorem readObjectBody_memberChars (h : Gathers member start ms final) (rest : Input) :
    readObjectBody member start
        (Input.ofChars (Value.memberChars ms) ++ .char '\x7d' :: rest) = .ok (final, rest) :=
  toOption_eq_some_iff.1 (toOption_readObjectBody h.runs rest)

end Members

theorem ofChars_object (ms : List (String × Value)) (rest : Input) :
    Input.ofChars (Value.object ms).chars ++ rest =
      .char '\x7b' :: (Input.ofChars (Value.memberChars ms) ++ .char '\x7d' :: rest) := by
  rw [Value.chars, Input.ofChars_append, Input.ofChars_cons, List.append_assoc]
  rfl

/-! ## Records -/

section Records

variable {κ ρ : Type} [DecidableEq κ] {S : Schema κ ρ} {room : Nat} {value : κ → Value}
  {content : (k : κ) → S.Content k}

/-- Labels tell the fields apart. -/
def Schema.Labelled (S : Schema κ ρ) : Prop :=
  S.fields.Nodup ∧ ∀ k, k ∈ S.fields ∧ S.field? (S.label k) = some k

/-- One member adds the field it is labelled with. -/
theorem readMember_field {fields : S.Fields} {k : κ} (hfield : S.field? (S.label k) = some k)
    (habsent : fields k = none) (hread : Reads (S.read room k) (value k).chars (content k))
    {rest : Input} (hfollows : Follows rest) :
    S.readMember room (S.label k) fields
        (.char ':' :: (Input.ofChars (value k).chars ++ rest)) =
      .ok (S.set fields k (content k), rest) := by
  have hcolon : readColon (.char ':' :: (Input.ofChars (value k).chars ++ rest)) =
      .ok (Input.ofChars (value k).chars ++ rest) := rfl
  simp only [Schema.readMember, hfield, habsent, hcolon, bind, Except.bind, hread.eq rest hfollows]
  rfl

theorem set_of_ne (fields : S.Fields) {j k : κ} (h : j ≠ k) (c : S.Content k) :
    S.set fields k c j = fields j := dif_neg h

theorem set_self (fields : S.Fields) (k : κ) (c : S.Content k) : S.set fields k c k = some c :=
  dif_pos rfl

/-- The induction is on the fields still to come, which are the absent ones. -/
theorem gathers_fields (hS : S.Labelled)
    (hread : ∀ k, Reads (S.read room k) (value k).chars (content k)) {ks : List κ}
    (hnodup : ks.Nodup) (fields : S.Fields) (habsent : ∀ k ∈ ks, fields k = none) :
    ∃ final, Gathers (S.readMember room) fields (ks.map fun k => (S.label k, value k)) final ∧
      ∀ k, final k = if k ∈ ks then some (content k) else fields k := by
  induction ks generalizing fields with
  | nil => exact ⟨fields, .nil fields, fun k => (if_neg List.not_mem_nil).symm⟩
  | cons k ks ih =>
    obtain ⟨hk, hks⟩ := List.nodup_cons.1 hnodup
    obtain ⟨hkabsent, hksabsent⟩ := List.forall_mem_cons.1 habsent
    have hnext : ∀ j ∈ ks, S.set fields k (content k) j = none := by
      intro j hj
      have hjk : j ≠ k := fun e => hk (e ▸ hj)
      rw [set_of_ne fields hjk]
      exact hksabsent j hj
    obtain ⟨final, hgathers, hfinal⟩ := ih hks _ hnext
    refine ⟨final, .cons (fun rest hrest => ?_) hgathers, fun j => ?_⟩
    · exact readMember_field (hS.2 k).2 hkabsent (hread k) hrest
    · rw [hfinal j]
      by_cases hjk : j = k
      · subst hjk
        rw [if_neg hk, if_pos List.mem_cons_self, set_self]
      · rw [set_of_ne fields hjk]
        by_cases hj : j ∈ ks
        · rw [if_pos hj, if_pos (List.mem_cons_of_mem k hj)]
        · rw [if_neg hj, if_neg (by simp [hjk, hj])]

/-- A record is read from the object of all its fields. -/
theorem reads_record (hS : S.Labelled)
    (hread : ∀ k, Reads (S.read room k) (value k).chars (content k)) {a : ρ}
    (hbuild : S.build (fun k => .ok (content k)) = .ok a) :
    Reads (S.readRecord (room + 1))
      (Value.object (S.fields.map fun k => (S.label k, value k))).chars a := by
  obtain ⟨final, hgathers, hfinal⟩ := gathers_fields hS hread hS.1 S.none fun _ _ => rfl
  have hcomplete : ∀ absent, S.finish absent final = .ok a := by
    intro absent
    rw [Schema.finish, ← hbuild]
    congr 1
    funext k
    rw [hfinal k, if_pos (hS.2 k).1]
    rfl
  refine ⟨⟨'\x7b', Value.memberChars _ ++ ['\x7d'], by rw [Value.chars, List.cons_append],
    by decide, by decide⟩, fun rest _ => ?_⟩
  rw [ofChars_object, Schema.readRecord, skipSpace_of_not_space (by decide)]
  show S.readObject room _ = _
  rw [Schema.readObject, readObjectBody_memberChars hgathers]
  simp only [bind, Except.bind, hcomplete]
  rfl

end Records

end Json
end AmpComponents
