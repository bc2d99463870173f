/-
Values that say the same to a record reader.

A record does not depend on the order in which an object names its fields, on a `null` where a
field may be absent, or on members that are no fields.  `Schema.Rewords` is one such change to an
object, and `InMember` and `InItem` are a change to a part of a value.

`Keeps R decode` says that a change of the kind `R` does no harm: the value stays well formed, and
if it stood for something, it stands for that afterwards.  The converse is not asked for, as a
`null` that is dropped may have stood beside a second member of the same key.
-/
import AmpComponents.Proofs.Json.Records
import Mathlib.Logic.Relation

namespace AmpComponents
namespace Json

/-! ## Changes -/

/-- One change to the object of a record.  What is added has numbers that are in range and nests at
most `depth` times. -/
inductive Schema.Rewords {κ ρ : Type} (S : Schema κ ρ) (depth : Nat) : Value → Value → Prop where
  | permute {ms ns : List (String × Value)} (h : ms.Perm ns) :
    S.Rewords depth (.object ms) (.object ns)
  | dropNull {k : κ} (hoptional : (S.fill k).isSome) (front back : List (String × Value)) :
    S.Rewords depth (.object (front ++ (S.label k, .null) :: back)) (.object (front ++ back))
  | addUnknown {key : String} {v : Value} (hkey : key ∉ S.fields.map S.label) (hv : v.Fits depth)
    (front back : List (String × Value)) :
    S.Rewords depth (.object (front ++ back)) (.object (front ++ (key, v) :: back))

/-- A change to the value of one member of an object. -/
inductive InMember (key : String) (R : Value → Value → Prop) : Value → Value → Prop where
  | intro {v w : Value} (h : R v w) (front back : List (String × Value)) :
    InMember key R (.object (front ++ (key, v) :: back)) (.object (front ++ (key, w) :: back))

/-- A change to one item of a list. -/
inductive InItem (R : Value → Value → Prop) : Value → Value → Prop where
  | intro {v w : Value} (h : R v w) (front back : List Value) :
    InItem R (.list (front ++ v :: back)) (.list (front ++ w :: back))

/-! ## What a change keeps -/

structure Keeps {α : Type} (R : Value → Value → Prop) (decode : Value → Option α) : Prop where
  formed : ∀ {v w}, R v w → v.Formed → w.Formed
  decode : ∀ {v w a}, R v w → decode v = some a → decode w = some a

section Keeps

variable {α : Type} {R R' : Value → Value → Prop} {decode : Value → Option α}

theorem Keeps.run (h : Keeps R decode) {v w : Value} (hrun : Relation.ReflTransGen R v w)
    (hv : v.Formed) {a : α} (hdecode : decode v = some a) : w.Formed ∧ decode w = some a := by
  induction hrun with
  | refl => exact ⟨hv, hdecode⟩
  | tail _ hstep ih => exact ⟨h.formed hstep ih.1, h.decode hstep ih.2⟩

/-- Neither a value that changes nor what it changes to may be `null`. -/
theorem Keeps.optional (h : Keeps R decode) (hnull : ∀ {v w}, R v w → v ≠ .null ∧ w ≠ .null) :
    Keeps R (optional? decode) := by
  refine ⟨h.formed, fun {v w a} hR hdecode => ?_⟩
  obtain ⟨hv, hw⟩ := hnull hR
  rw [optional?_of_ne decode hv] at hdecode
  obtain ⟨b, hb, rfl⟩ := Option.map_eq_some_iff.1 hdecode
  rw [optional?_of_ne decode hw, h.decode hR hb]
  rfl

theorem Keeps.list (h : Keeps R decode) : Keeps (InItem R) (list? decode) where
  formed := by
    rintro _ _ ⟨hR, front, back⟩ hformed
    rw [Value.formed_list_iff] at hformed ⊢
    simp only [List.forall_mem_append, List.forall_mem_cons] at hformed ⊢
    exact ⟨hformed.1, h.formed hR hformed.2.1, hformed.2.2⟩
  decode := by
    intro _ _ as hchange hdecode
    cases hchange with
    | @intro v w hR front back =>
      simp only [list?, List.map_append, List.map_cons, List.mapM_append, List.mapM_cons] at hdecode ⊢
      cases hv : decode v with
      | none =>
        rw [hv] at hdecode
        cases hfront : (front.map decode).mapM id <;> rw [hfront] at hdecode <;> cases hdecode
      | some a =>
        rw [h.decode hR hv, ← hv]
        exact hdecode

end Keeps

/-! ## Changes to records -/

section Records

variable {κ ρ : Type} {S : Schema κ ρ} {decode : (k : κ) → Value → Option (S.Content k)}
  {depth : Nat} {v w : Value}

/-- A change adds no members but those it may add. -/
theorem Schema.Rewords.members (h : S.Rewords depth v w) :
    ∃ ms ns, v = .object ms ∧ w = .object ns ∧ ∀ P : Value → Prop,
      (∀ u : Value, u.Fits depth → P u) → (∀ m ∈ ms, P m.2) → ∀ m ∈ ns, P m.2 := by
  cases h with
  | @permute ms ns h => exact ⟨ms, ns, rfl, rfl, fun P _ hms m hm => hms m (h.mem_iff.2 hm)⟩
  | dropNull hoptional front back =>
    refine ⟨_, _, rfl, rfl, fun P _ hms m hm => hms m ?_⟩
    exact (List.sublist_cons_self _ back).append_left front |>.subset hm
  | addUnknown hkey hv front back =>
    refine ⟨_, _, rfl, rfl, fun P hadded hms => ?_⟩
    simp only [List.forall_mem_append, List.forall_mem_cons] at hms ⊢
    exact ⟨hms.1, hadded _ hv, hms.2⟩

theorem Schema.Rewords.formed (h : S.Rewords depth v w) (hv : v.Formed) : w.Formed := by
  obtain ⟨ms, ns, rfl, rfl, hmembers⟩ := h.members
  rw [Value.formed_object_iff] at hv ⊢
  exact hmembers _ (fun _ hu => hu.formed) hv

theorem Schema.Rewords.fits (h : S.Rewords depth v w) {room : Nat} (hroom : depth ≤ room)
    (hv : v.Fits (room + 1)) : w.Fits (room + 1) := by
  obtain ⟨ms, ns, rfl, rfl, hmembers⟩ := h.members
  rw [Value.fits_object_iff] at hv ⊢
  exact hmembers _ (fun _ hu => hu.mono hroom) hv

theorem Schema.Rewords.ne_null (h : S.Rewords depth v w) : v ≠ .null ∧ w ≠ .null := by
  obtain ⟨ms, ns, rfl, rfl, -⟩ := h.members
  exact ⟨nofun, nofun⟩

/-- A record is finished the same way when a field is left out that holds what an absent one
holds. -/
theorem finish_congr {absent : κ → Fault} {fields others : S.Fields}
    (h : ∀ k, (fields k <|> S.fill k) = (others k <|> S.fill k)) :
    S.finish absent fields = S.finish absent others := by
  unfold Schema.finish
  congr 1
  funext k
  rw [h k]

/-- An object keeps its record when what its members give to each field is kept, or is what an
absent field holds. -/
theorem ofObject?_of_given? (hS : S.Labelled) {ms ns : List (String × Value)} {r : ρ}
    (h : ∀ k o, given? (decode k) (S.label k) ms = some o →
      ∃ o', given? (decode k) (S.label k) ns = some o' ∧ (o <|> S.fill k) = (o' <|> S.fill k))
    (hr : S.ofObject? decode ms = some r) : S.ofObject? decode ns = some r := by
  obtain ⟨fields, hgiven, hfinish⟩ := (Schema.ofObject?_eq_some_iff hS).1 hr
  choose others hothers hfill using fun k => h k _ (hgiven k)
  refine (Schema.ofObject?_eq_some_iff hS).2 ⟨others, hothers, ?_⟩
  rw [← hfinish, finish_congr hfill]

variable [DecidableEq κ]

/-- What an absent field holds is what `null` stands for. -/
theorem keeps_rewords (hS : S.Labelled)
    (hnull : ∀ k content, S.fill k = some content → decode k .null = some content) :
    Keeps (S.Rewords depth) (S.ofValue? decode) where
  formed := Schema.Rewords.formed
  decode := by
    intro v w r h hr
    cases h with
    | permute h =>
      refine ofObject?_of_given? hS (fun k o ho => ⟨o, ?_, rfl⟩) hr
      rw [← given?_perm h, ho]
    | @dropNull k hoptional front back =>
      obtain ⟨content, hfill⟩ := Option.isSome_iff_exists.1 hoptional
      refine ofObject?_of_given? hS (fun j o ho => ?_) hr
      rw [given?_insert] at ho
      by_cases hj : j = k
      · subst hj
        rw [given?_self, hnull j content hfill] at ho
        obtain ⟨hothers, rfl⟩ := eq_of_either? ho
        exact ⟨none, hothers, by rw [hfill]; rfl⟩
      · rw [given?_of_ne (hS.label_ne hj), nothing_either?] at ho
        exact ⟨o, ho, rfl⟩
    | @addUnknown key v hkey hv front back =>
      refine ofObject?_of_given? hS (fun k o ho => ⟨o, ?_, rfl⟩) hr
      have hlabel : key ≠ S.label k := by
        rintro rfl
        exact hkey (List.mem_map_of_mem (hS.2 k).1)
      rw [given?_insert, given?_of_ne hlabel, nothing_either?, ho]

theorem keeps_inMember (hS : S.Labelled) {k : κ} {R : Value → Value → Prop}
    (h : Keeps R (decode k)) : Keeps (InMember (S.label k) R) (S.ofValue? decode) where
  formed := by
    rintro _ _ ⟨hR, front, back⟩ hformed
    rw [Value.formed_object_iff] at hformed ⊢
    simp only [List.forall_mem_append, List.forall_mem_cons] at hformed ⊢
    exact ⟨hformed.1, h.formed hR hformed.2.1, hformed.2.2⟩
  decode := by
    intro _ _ r hchange hr
    cases hchange with
    | @intro v w hR front back =>
      refine ofObject?_of_given? hS (fun j o ho => ⟨o, ?_, rfl⟩) hr
      rw [given?_insert] at ho ⊢
      by_cases hj : j = k
      · subst hj
        rw [given?_self] at ho ⊢
        cases hv : decode j v with
        | none =>
          rw [hv] at ho
          obtain ⟨_, hnone⟩ := exists_of_either? ho
          cases hnone
        | some content =>
          rw [h.decode hR hv, ← hv]
          exact ho
      · rw [given?_of_ne (hS.label_ne hj)] at ho ⊢
        exact ho

end Records

end Json
end AmpComponents
