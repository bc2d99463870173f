/-
Where two equal texts are cut.

A part of a text whose characters have a property, with a character behind it that has not, is the
longest such part.  So two texts that agree agree in these parts and in what follows them
(`span_append_inj`).  Two texts that part before either ends never agree (`append_ne_append`).

A text is often a piece for each of some items, with more behind the last.  When a piece tells its
item and where it ends, and what follows the last is no piece, the text tells the items
(`flatMap_append_inj`).
-/
namespace AmpComponents
namespace Text

section Spans

variable {α : Type} {p : α → Bool}

/-- Whether no item with the property stands first. -/
def Ends (p : α → Bool) (s : List α) : Prop := ∀ a ∈ s.head?, p a = false

theorem ends_nil : Ends p [] := by simp [Ends]

theorem ends_cons {a : α} (h : p a = false) (s : List α) : Ends p (a :: s) := by
  simpa [Ends] using h

theorem takeWhile_append_of_ends {s t : List α} (hs : ∀ a ∈ s, p a = true) (ht : Ends p t) :
    (s ++ t).takeWhile p = s := by
  have hstop : t.takeWhile p = [] := by
    cases t with
    | nil => rfl
    | cons a t => exact List.takeWhile_cons_of_neg (by simp [ht a rfl])
  rw [List.takeWhile_append_of_pos hs, hstop, List.append_nil]

theorem span_append_inj {s t x y : List α} (hs : ∀ a ∈ s, p a = true) (ht : ∀ a ∈ t, p a = true)
    (hx : Ends p x) (hy : Ends p y) (h : s ++ x = t ++ y) : s = t ∧ x = y := by
  have hfirst : s = t := by
    rw [← takeWhile_append_of_ends hs hx, h, takeWhile_append_of_ends ht hy]
  subst hfirst
  exact ⟨rfl, List.append_cancel_left h⟩

end Spans

section Departing

variable {α : Type} {a b : List α}

/-- Whether two texts differ before either ends. -/
def Departs (a b : List α) : Prop := ¬(a <+: b ∨ b <+: a)

instance [DecidableEq α] (a b : List α) : Decidable (Departs a b) :=
  inferInstanceAs (Decidable (¬_))

/-- Closed texts are compared as the lists they are written as. -/
theorem departs_toList {a b : List Char} (h : Departs a b) :
    Departs (String.ofList a).toList (String.ofList b).toList := by
  rwa [String.toList_ofList, String.toList_ofList]

theorem not_prefix_append (h : Departs a b) (x : List α) : ¬a <+: b ++ x := by
  intro hprefix
  exact h (List.prefix_or_prefix_of_prefix hprefix (List.prefix_append b x))

theorem append_ne_append (h : Departs a b) (x y : List α) : a ++ x ≠ b ++ y := by
  intro heq
  exact not_prefix_append h y ⟨x, heq⟩

end Departing

section Pieces

variable {α β γ : Type}

/-- `g` is what a piece tells of its item.  The induction is on the items of one side: the first
piece on each side is cut off, and when one side has none left, neither has the other. -/
theorem flatMap_append_inj {f : α → List β} {g : α → γ} {as bs : List α} {x y : List β}
    (hpiece : ∀ a ∈ as, ∀ b ∈ bs, ∀ s t, f a ++ s = f b ++ t → g a = g b ∧ s = t)
    (hx : ∀ b ∈ bs, ∀ s, x ≠ f b ++ s) (hy : ∀ a ∈ as, ∀ s, y ≠ f a ++ s)
    (h : as.flatMap f ++ x = bs.flatMap f ++ y) : as.map g = bs.map g ∧ x = y := by
  induction as generalizing bs with
  | nil =>
    cases bs with
    | nil => exact ⟨rfl, h⟩
    | cons b bs =>
      rw [List.flatMap_nil, List.nil_append, List.flatMap_cons, List.append_assoc] at h
      exact absurd h (hx b List.mem_cons_self _)
  | cons a as ih =>
    cases bs with
    | nil =>
      rw [List.flatMap_nil, List.nil_append, List.flatMap_cons, List.append_assoc] at h
      exact absurd h.symm (hy a List.mem_cons_self _)
    | cons b bs =>
      simp only [List.flatMap_cons, List.append_assoc] at h
      obtain ⟨hfirst, hrest⟩ := hpiece a List.mem_cons_self b List.mem_cons_self _ _ h
      have hothers := ih
        (fun a' ha b' hb => hpiece a' (List.mem_cons_of_mem _ ha) b' (List.mem_cons_of_mem _ hb))
        (fun b' hb => hx b' (List.mem_cons_of_mem _ hb))
        (fun a' ha => hy a' (List.mem_cons_of_mem _ ha)) hrest
      rw [List.map_cons, List.map_cons, hfirst, hothers.1]
      exact ⟨rfl, hothers.2⟩

/-- The case of pieces that are single entries. -/
theorem map_append_inj {f : α → β} (hf : ∀ a b, f a = f b → a = b) {as bs : List α}
    {x y : List β} (hx : ∀ b s, x ≠ f b :: s) (hy : ∀ a s, y ≠ f a :: s)
    (h : as.map f ++ x = bs.map f ++ y) : as = bs ∧ x = y := by
  rw [List.map_eq_flatMap, List.map_eq_flatMap] at h
  have hcut := flatMap_append_inj (g := id)
    (fun a _ b _ s t hst => ⟨hf a b (List.cons.inj hst).1, (List.cons.inj hst).2⟩)
    (fun b _ => hx b) (fun a _ => hy a) h
  rwa [List.map_id, List.map_id] at hcut

end Pieces

end Text
end AmpComponents
