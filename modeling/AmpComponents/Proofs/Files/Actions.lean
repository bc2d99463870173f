/-
From the operations to what is built from them.

A property of actions that `pure` has and that goes through `bind` holds of reading a text and
of making directories as soon as it holds of the operations.  Making directories works on the
path and the directories it lies in, so the property is asked for only there.

`WorksOn p` is the least such property of actions that read, write and remove the file `p`: an
action with it reaches no other file.
-/
import AmpComponents.Files.Access

namespace AmpComponents

/-- The first path is the second or lies in it, by their names. -/
inductive Path.LiesIn (p : Path) : Path → Prop where
  | self : LiesIn p p
  | outer {q r : Path} : LiesIn p q → q.parent? = some r → LiesIn p r

theorem Path.LiesIn.of_parent? {p outer q : Path} (h : outer.LiesIn q)
    (houter : p.parent? = some outer) : p.LiesIn q := by
  induction h with
  | self => exact .outer .self houter
  | outer _ hparent ih => exact .outer ih hparent

/-- What is made in steps is made when every step succeeds. -/
theorem bind_eq_ok_iff {ε α β : Type} {x : Except ε α} {f : α → Except ε β} {b : β} :
    x >>= f = .ok b ↔ ∃ a, x = .ok a ∧ f a = .ok b := by
  cases x with
  | error failure =>
    show Except.error failure = .ok b ↔ _
    simp
  | ok a =>
    show f a = .ok b ↔ _
    simp

structure Composes {m : Type → Type} [Monad m] (P : ∀ α : Type, m α → Prop) : Prop where
  pure {α : Type} (a : α) : P α (Pure.pure a)
  bind {α β : Type} {x : m α} {f : α → m β} : P α x → (∀ a, P β (f a)) → P β (x >>= f)

namespace Composes

variable {m : Type → Type} [Monad m] [FileAccess m] {P : ∀ α : Type, m α → Prop}

theorem readText (h : Composes P) {p : Path} (hread : P _ (FileAccess.readBytes (m := m) p)) :
    P _ (FileAccess.readText (m := m) p) := by
  refine h.bind hread fun result => ?_
  cases result with
  | error fault => exact h.pure _
  | ok bytes =>
    simp only
    split
    · exact h.pure _
    · exact h.pure _

theorem settle (h : Composes P) {p : Path} (hlook : P _ (FileAccess.isDirectory (m := m) p))
    (attempt : Except FileFault Unit) : P _ (FileAccess.settle (m := m) p attempt) := by
  cases attempt with
  | ok done => exact h.pure _
  | error fault =>
    refine h.bind hlook fun isDirectory => ?_
    cases isDirectory with
    | true => exact h.pure _
    | false => exact h.pure _

/-- The recursion goes to the directory outside, which has fewer names. -/
theorem makeDirectories (h : Composes P) (p : Path)
    (hmake : ∀ q, p.LiesIn q → P _ (FileAccess.makeDirectory (m := m) q))
    (hlook : ∀ q, p.LiesIn q → P _ (FileAccess.isDirectory (m := m) q)) :
    P _ (FileAccess.makeDirectories (m := m) p) := by
  have hself := hmake p .self
  have hsettle := h.settle (hlook p .self)
  rw [FileAccess.makeDirectories]
  split
  · exact h.pure _
  · refine h.bind hself fun attempt => ?_
    split
    · split
      · exact h.pure _
      · next outer houter =>
        have hshorter := Path.length_parts_of_parent? houter
        have houtside : P _ (FileAccess.makeDirectories (m := m) outer) :=
          h.makeDirectories outer (fun q hq => hmake q (hq.of_parent? houter))
            (fun q hq => hlook q (hq.of_parent? houter))
        refine h.bind houtside fun result => ?_
        cases result with
        | error fault => exact h.pure _
        | ok done => exact h.bind hself hsettle
    · exact hsettle _
termination_by p.parts.length

end Composes

/-! ## One file -/

section OneFile

variable {m : Type → Type} [Monad m] [FileAccess m]

/-- An action that is put together from operations on one file. -/
inductive WorksOn (p : Path) : (α : Type) → m α → Prop where
  | pure {α : Type} (a : α) : WorksOn p α (Pure.pure a)
  | bind {α β : Type} {x : m α} {f : α → m β} :
      WorksOn p α x → (∀ a, WorksOn p β (f a)) → WorksOn p β (x >>= f)
  | readBytes : WorksOn p _ (FileAccess.readBytes p)
  | writeBytes (bytes : ByteArray) : WorksOn p _ (FileAccess.writeBytes p bytes)
  | removeFile : WorksOn p _ (FileAccess.removeFile p)

theorem composes_worksOn (p : Path) : Composes (WorksOn (m := m) p) := ⟨.pure, .bind⟩

theorem worksOn_readText (p : Path) : WorksOn p _ (FileAccess.readText (m := m) p) :=
  (composes_worksOn p).readText .readBytes

end OneFile

end AmpComponents
