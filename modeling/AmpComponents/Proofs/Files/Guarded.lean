/-
A tree of files that may be refused.

In a `FileTree` every operation succeeds that the tree allows.  A system may refuse one all the
same, for lack of permission or of space, and it may refuse to remove a file that it lets be read.
A `GuardedTree` says which operations are refused on which paths; the others are those of the tree.
It is a steady store like the tree itself.
-/
import AmpComponents.Proofs.Files.Changes

namespace AmpComponents

inductive FileOperation where
  | readBytes
  | writeBytes
  | makeDirectory
  | isDirectory
  | removeFile
  deriving DecidableEq

structure GuardedTree where
  tree : FileTree
  /-- The fault of an operation that is refused. -/
  refusal : FileOperation → Path → Option FileFault

namespace GuardedTree

section Guarded

variable {α : Type} (operation : FileOperation) (p : Path)

/-- An operation on the tree, unless it is refused. -/
def guarded (action : StateM FileTree (Except FileFault α)) :
    StateM GuardedTree (Except FileFault α) := fun g =>
  match g.refusal operation p with
  | some fault => (.error fault, g)
  | none => ((action g.tree).1, { g with tree := (action g.tree).2 })

/-- A question about the tree; without permission the answer is no. -/
def isDirectory (g : GuardedTree) : Bool :=
  (g.refusal .isDirectory p).isNone && g.tree.isDirectory p

instance : FileAccess (StateM GuardedTree) where
  readBytes p := guarded .readBytes p (FileAccess.readBytes p)
  writeBytes p bytes := guarded .writeBytes p (FileAccess.writeBytes p bytes)
  makeDirectory p := guarded .makeDirectory p (FileAccess.makeDirectory p)
  isDirectory p := fun g => (g.isDirectory p, g)
  removeFile p := guarded .removeFile p (FileAccess.removeFile p)

/-- A refused operation leaves the tree, and the others do what they do to the tree. -/
theorem guarded_cases (action : StateM FileTree (Except FileFault α)) (g : GuardedTree) :
    (∃ fault, guarded operation p action g = (.error fault, g)) ∨
      guarded operation p action g = ((action g.tree).1, { g with tree := (action g.tree).2 }) := by
  unfold guarded
  cases g.refusal operation p with
  | some fault => exact .inl ⟨fault, rfl⟩
  | none => exact .inr rfl

def HoldsBytes (g : GuardedTree) (p : Path) (bytes : ByteArray) : Prop := g.tree.HoldsBytes p bytes

variable {operation p} {action : StateM FileTree (Except FileFault α)} {g u : GuardedTree}

/-- What files hold after a guarded operation they held before, or the tree holds it after the
operation. -/
theorem holdsBytes_guarded {q : Path} {bytes : ByteArray}
    (h : HoldsBytes (guarded operation p action g).2 q bytes) :
    g.HoldsBytes q bytes ∨ (action g.tree).2.HoldsBytes q bytes := by
  rcases guarded_cases operation p action g with ⟨fault, hrefused⟩ | hdone
  · rw [hrefused] at h
    exact .inl h
  · rw [hdone] at h
    exact .inr h

theorem addsNothing_guarded (h : AddsNothing FileTree.HoldsBytes action) :
    AddsNothing HoldsBytes (guarded operation p action) := by
  intro g q bytes hholds
  rcases holdsBytes_guarded hholds with hbefore | hafter
  · exact hbefore
  · exact h g.tree q bytes hafter

/-- What an operation reports to have done, the tree has done. -/
theorem eq_of_guarded {a : α} (h : guarded operation p action g = (.ok a, u)) :
    action g.tree = (.ok a, u.tree) := by
  rcases guarded_cases operation p action g with ⟨fault, hrefused⟩ | hdone
  -- what is refused reports a fault
  · rw [hrefused] at h
    cases h
  · have hboth := hdone.symm.trans h
    have hresult : (action g.tree).1 = .ok a := congrArg Prod.fst hboth
    have htree : { g with tree := (action g.tree).2 } = u := congrArg Prod.snd hboth
    rw [← htree, ← hresult]
    rfl

theorem run_guarded_of_steady (h : ∀ t, (action t).2 = t) (g : GuardedTree) :
    (guarded operation p action g).2 = g := by
  rcases guarded_cases operation p action g with ⟨fault, hrefused⟩ | hdone
  · rw [hrefused]
  · rw [hdone, h]

end Guarded

instance : SteadyStore GuardedTree where
  Holds := HoldsBytes
  holds_of_readBytes h :=
    FileTree.holdsBytes_of_readBytes (congrArg Prod.fst (eq_of_guarded (Prod.ext h rfl)))
  addsNothing_readBytes p := addsNothing_guarded (FileStore.addsNothing_readBytes p)
  addsNothing_makeDirectory p := addsNothing_guarded (FileStore.addsNothing_makeDirectory p)
  addsNothing_isDirectory _ _ _ _ h := h
  addsNothing_removeFile p := addsNothing_guarded (FileStore.addsNothing_removeFile p)
  holds_of_writeBytes h := (holdsBytes_guarded h).elim .inl FileTree.holdsBytes_writeBytes
  run_readBytes _ g := run_guarded_of_steady (fun _ => rfl) g
  run_isDirectory _ _ := rfl
  holds_writeBytes h := FileTree.holdsBytes_of_readBytes
    (FileTree.readBytes_of_writeBytes (FileTree.eq_ok_of_update (eq_of_guarded h)))
  eq_of_holds h hothers := FileNode.file.inj (Option.some.inj (h.symm.trans hothers))

end GuardedTree
end AmpComponents
