/-
The properties an element receives, key by key.

Three keys are concerned: `specName` goes away, and `className` comes to stand as `class`, where it
replaces what was there.  `find?_renderedProps` says what is found under each key afterwards.  Since
neither `specName` nor `className` is found, there is nothing left to do a second time
(`renderedProps_renderedProps`), and since `specName` goes away first, it does not matter what it
was (`renderedProps_congr`).  So a dispatcher, which hands on properties that were treated already,
gives a variant what the variant would have made of them by itself.
-/
import AmpComponents.Rendering
import AmpComponents.Proofs.OrderedMap

namespace AmpComponents

variable {α : Type} {p q : OrderedMap String α}

/-- Only what is left without `specName` matters. -/
theorem renderedProps_congr (h : p.erase "specName" = q.erase "specName") :
    renderedProps p = renderedProps q := by
  rw [renderedProps, renderedProps, h]

theorem renderedProps_of_className {value : α} (h : p.find? "className" = some value) :
    renderedProps p = ((p.erase "specName").erase "className").insert "class" value := by
  have hfound : (p.erase "specName").find? "className" = some value := by
    rw [OrderedMap.find?_erase_of_ne (by decide), h]
  simp only [renderedProps, hfound]

theorem renderedProps_of_no_className (h : p.find? "className" = none) :
    renderedProps p = p.erase "specName" := by
  have hfound : (p.erase "specName").find? "className" = none := by
    rw [OrderedMap.find?_erase_of_ne (by decide), h]
  simp only [renderedProps, hfound]

theorem find?_renderedProps (p : OrderedMap String α) (key : String) :
    (renderedProps p).find? key =
      if key = "specName" ∨ key = "className" then none
      else if key = "class" then (p.find? "className").or (p.find? "class")
      else p.find? key := by
  cases h : p.find? "className" with
  | none =>
    rw [renderedProps_of_no_className h]
    by_cases hspec : key = "specName"
    · subst hspec
      simp
    · rw [OrderedMap.find?_erase_of_ne hspec]
      by_cases hname : key = "className"
      · subst hname
        simpa using h
      · by_cases hclass : key = "class" <;> simp [hspec, hname, hclass]
  | some value =>
    rw [renderedProps_of_className h]
    by_cases hclass : key = "class"
    · subst hclass
      simp
    · rw [OrderedMap.find?_insert_of_ne hclass]
      by_cases hname : key = "className"
      · subst hname
        simp
      · rw [OrderedMap.find?_erase_of_ne hname]
        by_cases hspec : key = "specName"
        · subst hspec
          simp
        · simp [OrderedMap.find?_erase_of_ne hspec, hspec, hname, hclass]

theorem find?_specName_renderedProps (p : OrderedMap String α) :
    (renderedProps p).find? "specName" = none := by
  simp [find?_renderedProps]

theorem find?_className_renderedProps (p : OrderedMap String α) :
    (renderedProps p).find? "className" = none := by
  simp [find?_renderedProps]

/-- Properties that hold neither key stay as they are. -/
theorem renderedProps_eq_self (hspec : p.find? "specName" = none)
    (hname : p.find? "className" = none) : renderedProps p = p := by
  rw [renderedProps_of_no_className hname, OrderedMap.erase_eq_self hspec]

theorem renderedProps_renderedProps (p : OrderedMap String α) :
    renderedProps (renderedProps p) = renderedProps p :=
  renderedProps_eq_self (find?_specName_renderedProps p) (find?_className_renderedProps p)

theorem renderedProps_erase_specName (p : OrderedMap String α) :
    renderedProps (p.erase "specName") = renderedProps p :=
  renderedProps_congr (OrderedMap.erase_erase_self p "specName")

theorem renderedProps_insert_specName (p : OrderedMap String α) (value : α) :
    renderedProps (p.insert "specName" value) = renderedProps p :=
  renderedProps_congr (OrderedMap.erase_insert_self p "specName" value)

/-- What an element receives for the properties `p`. -/
structure GivesProps (p given : OrderedMap String α) : Prop where
  specName : given.find? "specName" = none
  className : given.find? "className" = none
  /-- A `className` comes to stand as `class`, whatever its value is and whatever `class` was. -/
  renamed : ∀ value, p.find? "className" = some value → given.find? "class" = some value
  kept : p.find? "className" = none → given.find? "class" = p.find? "class"
  other : ∀ key, key ≠ "specName" → key ≠ "className" → key ≠ "class" →
    given.find? key = p.find? key
  again : renderedProps given = given
  insert_specName : ∀ value, renderedProps (p.insert "specName" value) = given
  erase_specName : renderedProps (p.erase "specName") = given

theorem givesProps_renderedProps (p : OrderedMap String α) : GivesProps p (renderedProps p) where
  specName := find?_specName_renderedProps p
  className := find?_className_renderedProps p
  renamed value h := by simp [find?_renderedProps, h]
  kept h := by simp [find?_renderedProps, h]
  other key hspec hname hclass := by simp [find?_renderedProps, hspec, hname, hclass]
  again := renderedProps_renderedProps p
  insert_specName := renderedProps_insert_specName p
  erase_specName := renderedProps_erase_specName p

end AmpComponents
