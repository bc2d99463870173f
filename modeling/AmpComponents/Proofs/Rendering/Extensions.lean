/-
What a collector of extensions holds after a history.

A collector looks at nothing but the names it holds, and it holds them in the order in which they
first came.  So it is told by the list of all names it was ever asked for: those registered by
themselves, and the extensions of the components that rendered with it as their context.  The
invariant says that it holds the first occurrences in this list; a name keeps it
(`extensions_register`), hence a component does, and a history (`extensions_runAll`).  What is said
of histories is then said of first occurrences.
-/
import AmpComponents.Rendering
import AmpComponents.Proofs.FirstOccurrences

namespace AmpComponents
namespace ExtensionCollector

/-! ## Steps -/

/-- The names a step registers, repetitions included. -/
def Step.names : Step → List String
  | .register name => [name]
  | .guard extensions hasContext => if hasContext then extensions else []

/-- Every name that a history registers. -/
def registered (steps : List Step) : List String := steps.flatMap Step.names

/-- The collector after these steps, one after the other. -/
def runAll (steps : List Step) : ExtensionCollector := steps.foldl run empty

theorem run_eq_registerAll (c : ExtensionCollector) (step : Step) :
    c.run step = c.registerAll step.names := by
  cases step with
  | register name => rfl
  | guard extensions hasContext => cases hasContext <;> rfl

section Histories

variable {c : ExtensionCollector} {seen : List String}

theorem extensions_register (h : c.extensions = seen.eraseDups) (name : String) :
    (c.register name).extensions = (seen ++ [name]).eraseDups := by
  have hmem : name ∈ c.extensions ↔ name ∈ seen := by rw [h, List.mem_eraseDups]
  rw [register, eraseDups_concat, ← h]
  by_cases hname : name ∈ seen
  · rw [if_pos (hmem.2 hname), if_pos hname]
  · rw [if_neg fun hheld => hname (hmem.1 hheld), if_neg hname]

theorem extensions_registerAll (h : c.extensions = seen.eraseDups) (names : List String) :
    (c.registerAll names).extensions = (seen ++ names).eraseDups := by
  induction names generalizing c seen with
  | nil =>
    rw [List.append_nil]
    exact h
  | cons name names ih =>
    have hrest := ih (extensions_register h name)
    rwa [List.append_assoc, List.singleton_append] at hrest

theorem extensions_run (h : c.extensions = seen.eraseDups) (step : Step) :
    (c.run step).extensions = (seen ++ step.names).eraseDups := by
  rw [run_eq_registerAll]
  exact extensions_registerAll h step.names

theorem extensions_foldl_run (h : c.extensions = seen.eraseDups) (steps : List Step) :
    (steps.foldl run c).extensions = (seen ++ registered steps).eraseDups := by
  induction steps generalizing c seen with
  | nil => rwa [registered, List.flatMap_nil, List.append_nil]
  | cons step steps ih =>
    have hrest := ih (extensions_run h step)
    rwa [List.append_assoc] at hrest

end Histories

theorem extensions_runAll (steps : List Step) :
    (runAll steps).extensions = (registered steps).eraseDups := by
  have hempty : empty.extensions = ([] : List String).eraseDups := rfl
  exact extensions_foldl_run hempty steps

theorem ext_extensions {c c' : ExtensionCollector} (h : c.extensions = c'.extensions) : c = c' := by
  cases c
  cases c'
  cases h
  rfl

theorem names_subset_registered {steps : List Step} {step : Step} (h : step ∈ steps) :
    step.names ⊆ registered steps :=
  fun _ hname => List.mem_flatMap.2 ⟨step, h, hname⟩

/-! ## Histories -/

/-- A collector that these steps lead to. -/
structure Collects (steps : List Step) (c : ExtensionCollector) : Prop where
  extensions : c.extensions = (registered steps).eraseDups
  nodup : c.extensions.Nodup
  /-- Whatever comes next only appends. -/
  grows : ∀ step, c.extensions <+: (c.run step).extensions
  /-- What was there at any time before still stands at the front. -/
  since : ∀ before after, steps = before ++ after →
    (runAll before).extensions <+: c.extensions
  noContext : ∀ extensions, c.run (.guard extensions false) = c
  again : ∀ step ∈ steps, c.run step = c
  reordered : ∀ others, others.Perm steps → (runAll others).extensions.Perm c.extensions

theorem collects_runAll (steps : List Step) : Collects steps (runAll steps) where
  extensions := extensions_runAll steps
  nodup := by
    rw [extensions_runAll]
    exact nodup_eraseDups _
  grows step := by
    rw [extensions_run (extensions_runAll steps), extensions_runAll]
    exact eraseDups_prefix_append _ _
  since before after hsteps := by
    have happend : registered steps = registered before ++ registered after := by
      rw [hsteps, registered, List.flatMap_append]
      rfl
    rw [extensions_runAll, extensions_runAll, happend]
    exact eraseDups_prefix_append _ _
  noContext _ := rfl
  again step hstep := by
    apply ext_extensions
    rw [extensions_run (extensions_runAll steps), extensions_runAll]
    exact eraseDups_append_of_subset (names_subset_registered hstep)
  reordered others hperm := by
    rw [extensions_runAll, extensions_runAll]
    exact eraseDups_perm fun _ => (hperm.flatMap_right _).mem_iff

/-- Components with repeated and shared extensions. -/
example : (runAll [.guard ["amp-list", "amp-bind", "amp-list"] true, .guard ["amp-ad"] false,
      .register "amp-form", .guard ["amp-bind", "amp-video"] true]).extensions =
    ["amp-list", "amp-bind", "amp-form", "amp-video"] := by decide

end ExtensionCollector
end AmpComponents
