/-
Printable modules with the same text show the same.

A module's text is its sections one after the other.  Nothing says how many components there are,
how many guards a component has, or whether it lists properties; the text is read by what stands in
it.  A line tells what it was made from, since a literal ends where its quote does and a word where
a blank follows.  A list of lines ends where a line follows that cannot be one of them, and a
section that may be left out opens with a line that no other opens with.  So the pieces of a module
are cut off one by one, each with whatever follows it, and the modules agree piece by piece
(`printed_eq_of_text_eq`).

Names have to be words.  Element tags need only stay within their line: nothing but the tag stands
open in its line.
-/
import AmpComponents.Proofs.Emission.Lines
import AmpComponents.Proofs.Script.Quotation
import AmpComponents.Proofs.Text.Spans

namespace AmpComponents

open Text (literal literal_append_inj)
open Script (isWord)

/-! ## What the text shows -/

/-- What the text shows of a component.  One written by hand brings its own properties. -/
inductive Component.Printed where
  | element (name tag : String) (propTypes : List PropType) (defaultProps : List DefaultProp)
    (extensions : List String)
  | handwritten (name : String) (binding : Binding) (extensions : List String)

def Component.printed (c : Component) : Component.Printed :=
  match c.kind with
  | .element tag => .element c.name tag c.propTypes c.defaultProps c.extensions
  | .handwritten binding => .handwritten c.name binding c.extensions

structure Dispatcher.Printed where
  name : String
  variants : List Variant

def Dispatcher.printed (d : Dispatcher) : Dispatcher.Printed := ⟨d.name, d.variants⟩

/-! ## Lines -/

/-- A word ends at the blank behind it. -/
theorem word_append_inj {name name' x y : String} {sep : List Char} (hname : isWord name = true)
    (hname' : isWord name' = true)
    (h : name ++ (String.ofList (' ' :: sep) ++ x) = name' ++ (String.ofList (' ' :: sep) ++ y)) :
    name = name' ∧ x = y := by
  have hends : ∀ z : String,
      Text.Ends Text.isAsciiIdContinue (String.ofList (' ' :: sep) ++ z).toList := by
    intro z
    rw [String.toList_append, String.toList_ofList]
    exact Text.ends_cons (by decide) _
  have hchars := congrArg String.toList h
  rw [String.toList_append (s := name), String.toList_append (s := name')] at hchars
  obtain ⟨hword, hrest⟩ := Text.span_append_inj (Script.all_of_isWord hname)
    (Script.all_of_isWord hname') (hends x) (hends y) hchars
  exact ⟨String.toList_inj.1 hword, (String.append_right_inj _).1 (String.toList_inj.1 hrest)⟩

theorem guardLine_inj {e e' : String} (h : guardLine e = guardLine e') : e = e' := by
  unfold guardLine at h
  simp only [String.append_assoc, String.append_right_inj] at h
  exact (literal_append_inj h).1

theorem renderLine_inj {tag tag' : String} (h : renderLine tag = renderLine tag') : tag = tag' := by
  unfold renderLine at h
  simpa only [String.append_assoc, String.append_right_inj, String.append_left_inj] using h

theorem variantLine_inj {v v' : Variant} (h : variantLine v = variantLine v') : v = v' := by
  unfold variantLine at h
  simp only [String.append_assoc, String.append_right_inj] at h
  obtain ⟨hspecName, h⟩ := literal_append_inj h
  rw [String.append_right_inj, String.append_left_inj] at h
  cases v
  cases v'
  exact congrArg₂ Variant.mk hspecName h

theorem propTypeLine_inj {p p' : PropType} (h : propTypeLine p = propTypeLine p') : p = p' := by
  unfold propTypeLine at h
  simp only [String.append_assoc, String.append_right_inj] at h
  obtain ⟨hname, h⟩ := literal_append_inj h
  rw [String.append_right_inj, String.append_left_inj] at h
  have hrequired : p.required = p'.required := by
    revert h
    cases p.required <;> cases p'.required <;> simp
  cases p
  cases p'
  exact congrArg₂ PropType.mk hname hrequired

theorem defaultPropLine_inj {p p' : DefaultProp} (h : defaultPropLine p = defaultPropLine p') :
    p = p' := by
  unfold defaultPropLine at h
  simp only [String.append_assoc, String.append_right_inj] at h
  obtain ⟨hname, h⟩ := literal_append_inj h
  rw [String.append_right_inj] at h
  cases p
  cases p'
  exact congrArg₂ DefaultProp.mk hname (literal_append_inj h).1

theorem importLine_inj {b b' : Binding} (hb : isWord b.localName = true)
    (hb' : isWord b'.localName = true) (h : importLine b = importLine b') : b = b' := by
  unfold importLine at h
  simp only [String.append_assoc, String.append_right_inj] at h
  obtain ⟨hlocal, h⟩ := word_append_inj hb hb' h
  cases b
  cases b'
  exact congrArg₂ Binding.mk hlocal (literal_append_inj h).1

theorem name_eq_of_declareLine_eq {keyword name name' : String}
    {extensions extensions' : List String} (hname : isWord name = true)
    (hname' : isWord name' = true)
    (h : declareLine keyword name extensions = declareLine keyword name' extensions') :
    name = name' := by
  unfold declareLine at h
  simp only [String.append_assoc, String.append_right_inj] at h
  exact (word_append_inj hname hname' h).1

/-! ## Lines that differ -/

section Fixed

variable {a b : List Char}

theorem append_ne_append (h : Text.Departs a b) (x y : String) :
    String.ofList a ++ x ≠ String.ofList b ++ y := by
  intro heq
  have hchars := congrArg String.toList heq
  simp only [String.toList_append, String.toList_ofList] at hchars
  exact Text.append_ne_append h _ _ hchars

theorem append_ne_ofList (h : ¬a <+: b) (x : String) : String.ofList a ++ x ≠ String.ofList b := by
  intro heq
  have hchars := congrArg String.toList heq
  simp only [String.toList_append, String.toList_ofList] at hchars
  exact h ⟨_, hchars⟩

end Fixed

theorem guardLine_ne_renderLine (e tag : String) : guardLine e ≠ renderLine tag := by
  unfold guardLine renderLine
  simp only [String.append_assoc]
  exact append_ne_append (by decide) _ _

theorem propTypeLine_ne_brace (p : PropType) : propTypeLine p ≠ "\x7d;" := by
  unfold propTypeLine
  simp only [String.append_assoc]
  exact append_ne_ofList (by decide) _

theorem defaultPropLine_ne_brace (p : DefaultProp) : defaultPropLine p ≠ "\x7d;" := by
  unfold defaultPropLine
  simp only [String.append_assoc]
  exact append_ne_ofList (by decide) _

theorem guardLine_ne_variantLine (e : String) (v : Variant) : guardLine e ≠ variantLine v := by
  unfold guardLine variantLine
  simp only [String.append_assoc]
  exact append_ne_append (by decide) _ _

theorem guardLine_ne_return (e : String) : guardLine e ≠ "  return null;" := by
  unfold guardLine
  simp only [String.append_assoc]
  exact append_ne_ofList (by decide) _

theorem renderLine_ne_variantLine (tag : String) (v : Variant) :
    renderLine tag ≠ variantLine v := by
  unfold renderLine variantLine
  simp only [String.append_assoc]
  exact append_ne_append (by decide) _ _

theorem renderLine_ne_return (tag : String) : renderLine tag ≠ "  return null;" := by
  unfold renderLine
  simp only [String.append_assoc]
  exact append_ne_ofList (by decide) _

theorem importLine_ne_declareLine (b : Binding) (name : String) (extensions : List String) :
    importLine b ≠ declareLine "const " name extensions := by
  unfold importLine declareLine
  simp only [String.append_assoc]
  exact append_ne_append (by decide) _ _

theorem importLine_ne_openingLine (b : Binding) (d : Dispatcher) :
    importLine b ≠ Script.openingLine d := by
  unfold importLine Script.openingLine
  simp only [String.append_assoc]
  exact append_ne_append (by decide) _ _

/-! ## Lists of lines -/

variable {x y : List String}

theorem bodyLines_append_inj {extensions extensions' : List String} {tag tag' : String}
    (h : bodyLines extensions tag ++ x = bodyLines extensions' tag' ++ y) :
    extensions = extensions' ∧ tag = tag' ∧ x = y := by
  have hrender : ∀ (tag e : String) (s t : List String),
      renderLine tag :: s ≠ guardLine e :: t := by
    intro tag e s t heq
    exact guardLine_ne_renderLine e tag (List.cons.inj heq).1.symm
  simp only [bodyLines, List.append_assoc, List.cons_append, List.nil_append] at h
  obtain ⟨hextensions, hrest⟩ := Text.map_append_inj (fun _ _ => guardLine_inj)
    (fun e s => hrender tag e _ s) (fun e s => hrender tag' e _ s) h
  rw [List.cons.injEq, List.cons.injEq] at hrest
  exact ⟨hextensions, renderLine_inj hrest.1, hrest.2.2⟩

/-- A section that may be left out is told by its opening, and ends with its brace. -/
theorem blockLines_append_inj {α : Type} {f : α → String} (hf : ∀ a b, f a = f b → a = b)
    (hbrace : ∀ a, f a ≠ "\x7d;") {opening : String} {as bs : List α}
    (hx : ∀ s, x ≠ "" :: opening :: s) (hy : ∀ s, y ≠ "" :: opening :: s)
    (h : blockLines opening (as.map f) ++ x = blockLines opening (bs.map f) ++ y) :
    as = bs ∧ x = y := by
  have hshape : ∀ (a : α) (as : List α) (s : List String),
      blockLines opening ((a :: as).map f) ++ s =
        "" :: opening :: ((a :: as).map f ++ "\x7d;" :: s) := by
    intro a as s
    simp [blockLines]
  cases as with
  | nil =>
    cases bs with
    | nil => exact ⟨rfl, h⟩
    | cons b bs =>
      rw [hshape] at h
      exact absurd h (hx _)
  | cons a as =>
    cases bs with
    | nil =>
      rw [hshape] at h
      exact absurd h.symm (hy _)
    | cons b bs =>
      rw [hshape, hshape, List.cons.injEq, List.cons.injEq] at h
      obtain ⟨hitems, hrest⟩ := Text.map_append_inj hf
        (fun b s heq => hbrace b (List.cons.inj heq).1.symm)
        (fun a s heq => hbrace a (List.cons.inj heq).1.symm) h.2.2
      exact ⟨hitems, (List.cons.inj hrest).2⟩

theorem blockLines_append_ne {opening opening' : String} (h : opening ≠ opening')
    (items : List String) (hx : ∀ s, x ≠ "" :: opening' :: s) (s : List String) :
    blockLines opening items ++ x ≠ "" :: opening' :: s := by
  cases items with
  | nil => exact hx s
  | cons item items =>
    intro heq
    exact h (List.cons.inj (List.cons.inj heq).2).1

theorem elementLines_append_inj {name : String} {propTypes propTypes' : List PropType}
    {defaultProps defaultProps' : List DefaultProp}
    (h : elementLines name propTypes defaultProps ++ x =
      elementLines name propTypes' defaultProps' ++ y) :
    propTypes = propTypes' ∧ defaultProps = defaultProps' ∧ x = y := by
  have hcontext : ∀ {opening : String}, name ++ ".contextTypes = \x7b" ≠ opening →
      ∀ s t : List String, contextTypesLines name ++ s ≠ "" :: opening :: t := by
    intro opening hne s t heq
    exact hne (List.cons.inj (List.cons.inj heq).2).1
  have hdefaults : name ++ ".contextTypes = \x7b" ≠ name ++ ".defaultProps = \x7b" := by
    simp [String.append_right_inj]
  have hprops : name ++ ".contextTypes = \x7b" ≠ name ++ ".propTypes = \x7b" := by
    simp [String.append_right_inj]
  have hboth : name ++ ".defaultProps = \x7b" ≠ name ++ ".propTypes = \x7b" := by
    simp [String.append_right_inj]
  simp only [elementLines, propTypesLines_eq, defaultPropsLines_eq, List.append_assoc] at h
  obtain ⟨hpropTypes, h⟩ := blockLines_append_inj (fun _ _ => propTypeLine_inj)
    propTypeLine_ne_brace (blockLines_append_ne hboth _ (hcontext hprops _))
    (blockLines_append_ne hboth _ (hcontext hprops _)) h
  obtain ⟨hdefaultProps, h⟩ := blockLines_append_inj (fun _ _ => defaultPropLine_inj)
    defaultPropLine_ne_brace (hcontext hdefaults _) (hcontext hdefaults _) h
  exact ⟨hpropTypes, hdefaultProps, List.append_cancel_left (List.append_cancel_left h)⟩

/-! ## Components and dispatchers -/

theorem Component.lines_append_inj {c c' : Component} (hc : c.IsPrintable) (hc' : c'.IsPrintable)
    (h : c.lines ++ x = c'.lines ++ y) : c.printed = c'.printed ∧ x = y := by
  have hkind := hc.kind
  have hkind' := hc'.kind
  cases hk : c.kind with
  | handwritten b =>
    cases hk' : c'.kind with
    | handwritten b' =>
      rw [hk] at hkind
      rw [hk'] at hkind'
      rw [lines_of_handwritten hk, lines_of_handwritten hk'] at h
      simp only [List.cons_append, List.cons.injEq] at h
      obtain ⟨himport, hexport, h⟩ := h
      obtain ⟨hextensions, -, hrest⟩ := bodyLines_append_inj h
      rw [printed, printed, hk, hk', importLine_inj hkind hkind' himport,
        name_eq_of_declareLine_eq hc.name hc'.name hexport, hextensions]
      exact ⟨rfl, hrest⟩
    | element tag' =>
      rw [lines_of_handwritten hk, lines_of_element hk'] at h
      exact absurd (List.cons.inj h).1 (importLine_ne_declareLine _ _ _)
  | element tag =>
    cases hk' : c'.kind with
    | handwritten b' =>
      rw [lines_of_element hk, lines_of_handwritten hk'] at h
      exact absurd (List.cons.inj h).1.symm (importLine_ne_declareLine _ _ _)
    | element tag' =>
      rw [lines_of_element hk, lines_of_element hk'] at h
      simp only [List.cons_append, List.cons.injEq, List.append_assoc] at h
      obtain ⟨hconst, h⟩ := h
      obtain ⟨hextensions, htag, h⟩ := bodyLines_append_inj h
      rw [name_eq_of_declareLine_eq hc.name hc'.name hconst] at h
      obtain ⟨hpropTypes, hdefaultProps, hrest⟩ := elementLines_append_inj h
      rw [printed, printed, hk, hk', name_eq_of_declareLine_eq hc.name hc'.name hconst, htag,
        hpropTypes, hdefaultProps, hextensions]
      exact ⟨rfl, hrest⟩

theorem Dispatcher.lines_append_inj {d d' : Dispatcher} (h : d.lines ++ x = d'.lines ++ y) :
    d.printed = d'.printed ∧ x = y := by
  have hreturn : ∀ (v : Variant) (s t : List String),
      "  return null;" :: s ≠ variantLine v :: t := by
    intro v s t heq
    exact Script.variantLine_ne_return v (List.cons.inj heq).1.symm
  rw [Script.lines_eq, Script.lines_eq, List.cons_append, List.cons_append, List.cons.injEq,
    List.append_assoc, List.append_assoc] at h
  obtain ⟨hopening, h⟩ := h
  obtain ⟨hvariants, h⟩ := Text.map_append_inj (fun _ _ => variantLine_inj)
    (fun v => hreturn v _) (fun v => hreturn v _) h
  have hname : d.name = d'.name := by
    unfold Script.openingLine at hopening
    simpa only [String.append_assoc, String.append_right_inj, String.append_left_inj]
      using hopening
  rw [printed, printed, hname, hvariants]
  have hlength : (Script.closingLines d).length = (Script.closingLines d').length := rfl
  exact ⟨rfl, (List.append_inj h hlength).2⟩

/-- The second line of an element's component and of a dispatcher tells them apart. -/
theorem Component.lines_append_ne (c : Component) (d : Dispatcher) :
    c.lines ++ x ≠ d.lines ++ y := by
  intro h
  rw [Script.lines_eq] at h
  cases hk : c.kind with
  | handwritten b =>
    rw [lines_of_handwritten hk] at h
    exact importLine_ne_openingLine b d (List.cons.inj h).1
  | element tag =>
    rw [lines_of_element hk] at h
    have hbody := (List.cons.inj h).2
    cases he : c.extensions with
    | nil =>
      rw [he] at hbody
      cases hv : d.variants with
      | nil =>
        rw [hv] at hbody
        exact renderLine_ne_return tag (List.cons.inj hbody).1
      | cons v variants =>
        rw [hv] at hbody
        exact renderLine_ne_variantLine tag v (List.cons.inj hbody).1
    | cons e extensions =>
      rw [he] at hbody
      cases hv : d.variants with
      | nil =>
        rw [hv] at hbody
        exact guardLine_ne_return e (List.cons.inj hbody).1
      | cons v variants =>
        rw [hv] at hbody
        exact guardLine_ne_variantLine e v (List.cons.inj hbody).1

/-! ## Modules -/

theorem preambleLines_append_inj {contextModule contextModule' : String}
    (h : preambleLines contextModule ++ x = preambleLines contextModule' ++ y) :
    contextModule = contextModule' ∧ x = y := by
  have hlength : (preambleLines contextModule).length = (preambleLines contextModule').length := by
    simp [preambleLines]
  obtain ⟨hpreamble, hrest⟩ := List.append_inj h hlength
  simp only [preambleLines, List.cons_append, List.cons.injEq, String.append_assoc,
    String.append_right_inj, true_and, and_true] at hpreamble
  exact ⟨(literal_append_inj hpreamble).1, hrest⟩

/-- No line of a dispatcher's section begins a component's. -/
theorem dispatchers_ne_component (ds : List Dispatcher) (c : Component) (s : List String) :
    ds.flatMap (fun d => "" :: d.lines) ≠ "" :: c.lines ++ s := by
  intro h
  cases ds with
  | nil => cases h
  | cons d ds =>
    rw [List.flatMap_cons] at h
    exact c.lines_append_ne d (List.cons.inj h).2.symm

theorem printed_eq_of_text_eq {m m' : ComponentModule} (hm : m.IsPrintable)
    (hm' : m'.IsPrintable) (h : m.text = m'.text) :
    m.contextModule = m'.contextModule ∧
      m.components.map (·.printed) = m'.components.map (·.printed) ∧
      m.dispatchers.map (·.printed) = m'.dispatchers.map (·.printed) := by
  have hlines : m.lines = m'.lines := by
    rw [← ComponentModule.lines_text hm, ← ComponentModule.lines_text hm', h]
  rw [ComponentModule.lines_eq, ComponentModule.lines_eq] at hlines
  obtain ⟨hcontext, hsections⟩ := preambleLines_append_inj hlines
  obtain ⟨hcomponents, hrest⟩ := Text.flatMap_append_inj
    (fun c hc c' hc' s t hst =>
      Component.lines_append_inj (hm.components c hc) (hm'.components c' hc')
        (List.cons.inj hst).2)
    (fun c _ => dispatchers_ne_component _ c) (fun c _ => dispatchers_ne_component _ c) hsections
  have hdispatchers := Text.flatMap_append_inj
    (fun d _ d' _ s t hst => Dispatcher.lines_append_inj (List.cons.inj hst).2)
    (fun _ _ _ => (List.cons_ne_nil _ _).symm) (fun _ _ _ => (List.cons_ne_nil _ _).symm)
    (congrArg (· ++ []) hrest)
  exact ⟨hcontext, hcomponents, hdispatchers.1⟩

/-- Texts that would end their literal or their line.  The tag name stands nowhere in the text. -/
def sampleShown (tagName : String) : ComponentModule where
  contextModule := "./it's\\"
  components :=
    [⟨"AmpAd_61", tagName, some "a", .handwritten ⟨"Ad", "./ad\n\u2028"⟩, [], [], []⟩,
     ⟨"AmpImg", tagName, none, .element "amp-img", [⟨"src\x7d;", true⟩], [⟨"layout", "\r'"⟩],
      ["');\nexport"]⟩]
  dispatchers := [⟨"AmpAd", tagName, [⟨"a'", "AmpAd_61"⟩]⟩]

theorem printed_eq_sampleShown :
    (sampleShown "amp-ad").IsPrintable ∧ (sampleShown "amp-img").IsPrintable ∧
      (sampleShown "amp-ad").text = (sampleShown "amp-img").text ∧
      sampleShown "amp-ad" ≠ sampleShown "amp-img" ∧
      (sampleShown "amp-ad").contextModule = (sampleShown "amp-img").contextModule ∧
      (sampleShown "amp-ad").components.map (·.printed) =
        (sampleShown "amp-img").components.map (·.printed) ∧
      (sampleShown "amp-ad").dispatchers.map (·.printed) =
        (sampleShown "amp-img").dispatchers.map (·.printed) :=
  ⟨by decide +kernel, by decide +kernel, rfl, by decide,
    printed_eq_of_text_eq (by decide +kernel) (by decide +kernel) rfl⟩

end AmpComponents
