/-
Files in one directory do not see each other.

A file in a directory is found by following the path of the directory and then one name, so what
is read there depends on where the directory is and on what stands at the place of the file
(`readBytes_child_congr`).  Writing a file leaves all directories where they are, and
`readBytes_of_writeBytes_sibling` says that another file of the directory is read as before.

An action that works on one file changes the tree at the place of this file only:
`changesOnly_of_worksOn`.
-/
import AmpComponents.Proofs.Files.Changes

namespace AmpComponents
namespace FileTree

/-! ## Changes at one place -/

/-- The trees are the same everywhere else. -/
structure ChangesOnly (place : Place) (t u : FileTree) : Prop where
  current : u.current = t.current
  node? {other : Place} : other ≠ place → u.node? other = t.node? other

section ChangesOnly

variable {t u v : FileTree} {place : Place} {p : Path}

theorem ChangesOnly.refl (place : Place) (t : FileTree) : ChangesOnly place t t :=
  ⟨rfl, fun _ => rfl⟩

theorem ChangesOnly.trans (htu : ChangesOnly place t u) (huv : ChangesOnly place u v) :
    ChangesOnly place t v :=
  ⟨huv.current.trans htu.current, fun h => (huv.node? h).trans (htu.node? h)⟩

theorem changesOnly_insert (t : FileTree) (place : Place) (node : FileNode) :
    ChangesOnly place t { t with nodes := t.nodes.insert place node } :=
  ⟨rfl, fun h => node?_insert_of_ne t node h⟩

theorem changesOnly_withoutFile (t : FileTree) (p : Path) :
    ChangesOnly (t.place p) t (t.withoutFile p) :=
  ⟨rfl, fun h => node?_erase_of_ne t h⟩

theorem changesOnly_writeBytes {content : ByteArray} (h : t.writeBytes p content = .ok u) :
    ChangesOnly (t.place p) t u := by
  obtain ⟨place, hplace, rfl⟩ := eq_insert_of_writeBytes h
  obtain ⟨name, outer, -, hname, houter, -, -, hstep, -⟩ := writePlace_cases hplace
  rw [← eq_place_of_step hname houter hstep]
  exact changesOnly_insert t place _

theorem changesOnly_update {f : FileTree → Except FileFault FileTree}
    (h : ∀ next, f t = .ok next → ChangesOnly place t next) :
    ChangesOnly place t (update f t).2 := by
  cases hf : f t with
  | error fault =>
    simp only [update, hf]
    exact .refl place t
  | ok next =>
    simp only [update, hf]
    exact h next hf

/-- The induction is on how the action is put together. -/
theorem changesOnly_of_worksOn {α : Type} {action : StateM FileTree α} (h : WorksOn p α action)
    (t : FileTree) : ChangesOnly (t.place p) t (action t).2 := by
  induction h generalizing t with
  | pure a => exact .refl _ t
  | @bind α β x f _ _ ihx ihf =>
    have hfirst := ihx t
    have hsecond := ihf (x t).1 (x t).2
    rw [place_eq_of_current hfirst.current] at hsecond
    rw [run_bind]
    exact hfirst.trans hsecond
  | readBytes => exact .refl _ t
  | writeBytes content => exact changesOnly_update fun _ hnext => changesOnly_writeBytes hnext
  | removeFile =>
    refine changesOnly_update fun next hnext => ?_
    rw [eq_erase_of_removeFile hnext]
    exact changesOnly_withoutFile t p

end ChangesOnly

theorem node?_withoutFile_self (t : FileTree) {p : Path} (h : t.place p ≠ []) :
    (t.withoutFile p).node? (t.place p) = none :=
  node?_erase_self t h

/-- Trees that differ at one place still do so without some file. -/
theorem ChangesOnly.withoutFile {t u : FileTree} {place : Place} {p : Path}
    (h : ChangesOnly place t u) (hne : t.place p ≠ []) :
    ChangesOnly place (t.withoutFile p) (u.withoutFile p) := by
  have hplace : u.place p = t.place p := place_eq_of_current h.current p
  refine ⟨h.current, fun {other} hother => ?_⟩
  by_cases hp : other = t.place p
  · rw [hp, t.node?_withoutFile_self hne, ← hplace,
      u.node?_withoutFile_self (by rwa [hplace])]
  · rw [(changesOnly_withoutFile t p).node? hp,
      (changesOnly_withoutFile u p).node? (by rwa [hplace]), h.node? hother]

/-! ## Files of a directory -/

/-- The directory of a path is there and is a directory. -/
def HasDirectory (t : FileTree) (d : Path) : Prop :=
  t.walk (t.origin d) d.parts = .ok (t.place d) ∧ t.node? (t.place d) = some .directory

section Siblings

variable {t u : FileTree} {d : Path} {name other : String}

theorem place_child (t : FileTree) (d : Path) (name : String) :
    t.place (d.child name) = follow (t.place d) name := by
  rw [place, place, Path.child, List.foldl_append]
  rfl

/-- Only the last name is still to be followed. -/
theorem walk_child (h : t.HasDirectory d) (name : String) :
    t.walk (t.origin (d.child name)) (d.child name).parts = t.walk (t.place d) [name] := by
  show t.walk (t.origin d) (d.parts ++ [name]) = _
  rw [walk_append, h.1]
  rfl

theorem walk_child_congr (ht : t.HasDirectory d) (hu : u.HasDirectory d)
    (hcurrent : u.current = t.current)
    (hnode : u.node? (t.place (d.child name)) = t.node? (t.place (d.child name))) :
    u.walk (u.origin (d.child name)) (d.child name).parts =
      t.walk (t.origin (d.child name)) (d.child name).parts := by
  have hstep : u.step (u.place d) name = t.step (t.place d) name := by
    rw [step, step, hu.2, ht.2, place_eq_of_current hcurrent]
  rw [walk_child hu, walk_child ht, walk, walk, hstep]
  cases hnext : t.step (t.place d) name with
  | error fault => rfl
  | ok next =>
    have hplace : next = t.place (d.child name) := by
      rw [place_child]
      exact eq_follow_of_step hnext
    simp only [hplace, bind, Except.bind, hnode]
    rfl

theorem readBytes_congr {p : Path}
    (hwalk : u.walk (u.origin p) p.parts = t.walk (t.origin p) p.parts)
    (hnode : u.node? (t.place p) = t.node? (t.place p)) : u.readBytes p = t.readBytes p := by
  have hlocate : u.locate p = t.locate p := by
    unfold locate
    rw [hwalk]
    cases hfound : t.walk (t.origin p) p.parts with
    | error fault => rfl
    | ok found =>
      have hplace : found = t.place p := eq_foldl_of_walk hfound
      simp only [bind, Except.bind, hplace, hnode]
  rw [readBytes, readBytes, hlocate]

theorem readBytes_child_congr (ht : t.HasDirectory d) (hu : u.HasDirectory d)
    (hcurrent : u.current = t.current)
    (hnode : u.node? (t.place (d.child name)) = t.node? (t.place (d.child name))) :
    u.readBytes (d.child name) = t.readBytes (d.child name) :=
  readBytes_congr (walk_child_congr ht hu hcurrent hnode) hnode

/-- The directory in which a file was written is there before and after. -/
theorem hasDirectory_of_writeBytes {content : ByteArray}
    (h : t.writeBytes (d.child name) content = .ok u) : t.HasDirectory d ∧ u.HasDirectory d := by
  obtain ⟨place, hplace, rfl⟩ := eq_insert_of_writeBytes h
  have hne : place ≠ [] := by
    obtain ⟨outer, last, -, rfl⟩ := place_of_writePlace hplace
    simp
  obtain ⟨last, outer, -, -, houter, -, -, -, hnode⟩ := writePlace_cases hplace
  obtain ⟨hwalk, hdirectory⟩ := outer_cases houter
  have hparts : (d.child name).parts.dropLast = d.parts := List.dropLast_concat
  rw [hparts] at hwalk
  have houterPlace : outer = t.place d := eq_foldl_of_walk hwalk
  rw [houterPlace] at hwalk hdirectory
  have hkeeps := keeps_insert_file content hne hnode
  exact ⟨⟨hwalk, hdirectory⟩, hkeeps.walk hwalk, hkeeps.directory hdirectory⟩

theorem readBytes_of_writeBytes_sibling {content : ByteArray}
    (h : t.writeBytes (d.child name) content = .ok u)
    (hne : t.place (d.child other) ≠ t.place (d.child name)) :
    u.readBytes (d.child other) = t.readBytes (d.child other) := by
  obtain ⟨hbefore, hafter⟩ := hasDirectory_of_writeBytes h
  have hchanges := changesOnly_writeBytes h
  exact readBytes_child_congr hbefore hafter hchanges.current (hchanges.node? hne)

end Siblings

end FileTree
end AmpComponents
