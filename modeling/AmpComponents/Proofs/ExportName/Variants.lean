/-
The variants of a tag name and their dispatcher are exported under different names.

The lower case and the capitals both look ahead, so an appended suffix could change how the tag name
in front of it is treated.  It does not: the underscore has no case and is no hyphen, and a hyphen
that ends the tag name is all it can take with it.  So the name of a variant is the name of the tag
with an underscore, followed by the digits (`exportChars_variantChars_append`), and since digits tell
the discriminators apart, names tell the variants apart.

The dispatcher is named after the tag alone.  Its name ends where that of a variant has the
underscore, or has there the hyphen that the underscore would have taken away.
-/
import AmpComponents.Proofs.Dispatch
import AmpComponents.Proofs.ExportName

namespace AmpComponents

open Text

/-! ## Names with an underscore -/

/-- An underscore changes the end of a text only, where it may replace a hyphen. -/
theorem exists_capitaliseAfterHyphens_underscore (s : List Char) :
    ∃ front, capitaliseAfterHyphens (s ++ ['_']) = front ++ ['_'] ∧
      (capitaliseAfterHyphens s = front ∨ capitaliseAfterHyphens s = front ++ ['-']) := by
  induction s using capitaliseAfterHyphens.induct with
  | case1 rest ih =>
    obtain ⟨front, hsuffix, hplain⟩ := ih
    refine ⟨'-' :: '\n' :: front, ?_, ?_⟩
    · simp only [List.cons_append, capitaliseAfterHyphens, if_true, hsuffix]
    · simpa only [capitaliseAfterHyphens, if_true, List.cons_append, List.cons.injEq, true_and]
        using hplain
  | case2 c rest hc ih =>
    obtain ⟨front, hsuffix, hplain⟩ := ih
    refine ⟨upperChar c ++ front, ?_, ?_⟩
    · simp only [List.cons_append, capitaliseAfterHyphens_hyphen hc, hsuffix, List.append_assoc]
    · simpa only [capitaliseAfterHyphens_hyphen hc, List.append_assoc, List.append_cancel_left_eq]
        using hplain
  | case3 c rest hpair ih =>
    by_cases hc : c = '-'
    · subst hc
      cases rest with
      | nil => exact ⟨[], rfl, .inr rfl⟩
      | cons d rest => exact absurd rfl (hpair d rest rfl)
    · obtain ⟨front, hsuffix, hplain⟩ := ih
      refine ⟨c :: front, ?_, ?_⟩
      · rw [List.cons_append, capitaliseAfterHyphens_of_ne hc, hsuffix, List.cons_append]
      · simpa only [capitaliseAfterHyphens_of_ne hc, List.cons_append, List.cons.injEq, true_and]
          using hplain
  | case4 => exact ⟨[], rfl, .inl rfl⟩

theorem exists_capitalise_underscore (s : List Char) :
    ∃ front, capitalise (s ++ ['_']) = front ++ ['_'] ∧
      (capitalise s = front ∨ capitalise s = front ++ ['-']) := by
  cases s with
  | nil => exact ⟨[], rfl, .inl rfl⟩
  | cons c rest =>
    obtain ⟨front, hsuffix, hplain⟩ := exists_capitaliseAfterHyphens_underscore rest
    simp only [List.cons_append, capitalise, hsuffix]
    split
    · exact ⟨c :: front, rfl, by simpa using hplain⟩
    split
    · exact ⟨front, rfl, hplain⟩
    · exact ⟨upperChar c ++ front, by rw [List.append_assoc], by simpa using hplain⟩

/-- The name of a variant does not begin with the name of its tag and end there. -/
theorem exportChars_variantChars_ne (tag discriminator : String) :
    exportChars (variantChars tag discriminator) ≠ exportChars tag.toList := by
  obtain ⟨front, hsuffix, hplain⟩ := exists_capitalise_underscore (lower tag.toList)
  rw [exportChars_variantChars_append, exportChars, lower_append_underscore, hsuffix, exportChars,
    List.append_assoc]
  intro heq
  rcases hplain with hplain | hplain
  · rw [hplain] at heq
    have hlength := congrArg List.length heq
    rw [List.length_append, List.length_append, List.length_singleton] at hlength
    omega
  · rw [hplain] at heq
    exact absurd (List.cons.inj (List.append_cancel_left heq)).1 (by decide)

/-! ## Exported names -/

theorem exportName_variantName (tag discriminator : String) :
    exportName (variantName tag discriminator) =
      exportName (tag ++ "_") ++ String.ofList (hex discriminator) := by
  have hunderscore : "_".toList = ['_'] := String.toList_ofList
  rw [exportName, variantName, String.toList_ofList, exportChars_variantChars_append, exportName,
    String.toList_append, hunderscore, String.ofList_append]

theorem exportName_append_underscore {tag : String} (h : tag.toList.getLast? ≠ some '-') :
    exportName (tag ++ "_") = exportName tag ++ "_" := by
  have hunderscore : "_".toList = ['_'] := String.toList_ofList
  rw [exportName, String.toList_append, hunderscore, exportChars_append_underscore h,
    String.ofList_append]
  rfl

theorem exportName_variantName_inj {tag d e : String} :
    exportName (variantName tag d) = exportName (variantName tag e) ↔ d = e := by
  rw [exportName_variantName, exportName_variantName, String.append_right_inj, String.ofList_inj,
    hex_inj]

theorem exportName_variantName_ne (tag d : String) :
    exportName (variantName tag d) ≠ exportName tag := by
  intro heq
  rw [exportName, variantName, String.toList_ofList, exportName, String.ofList_inj] at heq
  exact exportChars_variantChars_ne tag d heq

/-- A tag and its variants have as many names as they are. -/
theorem nodup_exportName_cons {tag : String} {ds : List String} (h : ds.Nodup) :
    (exportName tag :: ds.map fun d => exportName (variantName tag d)).Nodup := by
  refine List.nodup_cons.2 ⟨fun hmem => ?_, h.map fun d e => exportName_variantName_inj.1⟩
  obtain ⟨d, -, heq⟩ := List.mem_map.1 hmem
  exact exportName_variantName_ne tag d heq

/-- The components a dispatcher selects from are named after its tag and their discriminators. -/
theorem components_of_mem_dispatchers {rules : List TagRule} {r : Retention}
    (h : Retention.ofRules rules = .ok r) {d : Dispatcher} (hd : d ∈ r.shared.dispatchers) :
    d.name = exportName d.tagName ∧ d.specNames.Nodup ∧
      d.variants.map (·.component) =
        d.specNames.map fun s => exportName (variantName d.tagName s) := by
  have htracks := Retention.tracks_of_ofRules h
  rw [dispatchers_of_tracks htracks] at hd
  obtain ⟨tag, htag, rfl⟩ := List.mem_map.1 hd
  have hnodup := Retention.nodup_discriminators htracks (mem_dispatchedNames_iff.1 htag).2
  simp only [Dispatcher.specNames, Dispatcher.declared, List.map_map, Function.comp_def]
  exact ⟨trivial, hnodup, trivial⟩

/-- A way of naming under which a tag name and its variants are told apart. -/
structure TellsVariantsApart (name : String → String) : Prop where
  variant : ∀ tag d, name (variantName tag d) = name (tag ++ "_") ++ String.ofList (hex d)
  variant_of_no_hyphen : ∀ tag d, tag.toList.getLast? ≠ some '-' →
    name (variantName tag d) = name tag ++ "_" ++ String.ofList (hex d)
  inj : ∀ tag d e, name (variantName tag d) = name (variantName tag e) → d = e
  ne_tag : ∀ tag d, name (variantName tag d) ≠ name tag
  /-- With `k` discriminators there are `k + 1` names. -/
  nodup : ∀ tag ds, List.Nodup ds → (name tag :: ds.map fun d => name (variantName tag d)).Nodup
  /-- So it is for every dispatcher that a pass over the rules leads to. -/
  dispatcher : ∀ rules r, Retention.ofRules rules = .ok r → ∀ d ∈ r.shared.dispatchers,
    d.name = name d.tagName ∧
      d.variants.map (·.component) = d.specNames.map (fun s => name (variantName d.tagName s)) ∧
      (d.name :: d.variants.map (·.component)).Nodup

theorem tellsVariantsApart_exportName : TellsVariantsApart exportName where
  variant := exportName_variantName
  variant_of_no_hyphen tag d h := by
    rw [exportName_variantName, exportName_append_underscore h]
  inj _ _ _ := exportName_variantName_inj.1
  ne_tag := exportName_variantName_ne
  nodup _ _ := nodup_exportName_cons
  dispatcher rules r h d hd := by
    obtain ⟨hname, hnodup, hcomponents⟩ := components_of_mem_dispatchers h hd
    refine ⟨hname, hcomponents, ?_⟩
    rw [hname, hcomponents]
    exact nodup_exportName_cons hnodup

/-- A hyphen at the end takes the underscore along, and the names differ all the same. -/
theorem tellsVariantsApart_trailingHyphen :
    exportName "amp-ΑΣ-" = "AmpΑς-" ∧ exportName (variantName "amp-ΑΣ-" "é") = "AmpΑς_c3a9" ∧
      exportName (variantName "amp-ΑΣ" "é") = "AmpΑς" ++ "_" ++ String.ofList (hex "é") ∧
      ["é", "_", ""].Nodup ∧
      (exportName "amp-ΑΣ-" ::
        ["é", "_", ""].map fun d => exportName (variantName "amp-ΑΣ-" d)).Nodup := by
  have hnodup : ["é", "_", ""].Nodup := by decide
  have hname : exportName "amp-ΑΣ" = "AmpΑς" := by decide +kernel
  refine ⟨by decide +kernel, by decide +kernel, ?_, hnodup,
    tellsVariantsApart_exportName.nodup _ _ hnodup⟩
  rw [← hname]
  exact tellsVariantsApart_exportName.variant_of_no_hyphen _ _ (by decide +kernel)

end AmpComponents
