/-
What the operations on a tree change.

A file that has been written is read back: `readBytes_of_writeBytes`.  The path leads to the
same place after the write, because every directory on the way is still there.

Making a directory with those it lies in changes only places of these directories, where nothing
was before, whether the attempts succeed or not.  `AddsDirectories` says this of two trees.
-/
import AmpComponents.Proofs.Cache.Store
import AmpComponents.Text.Hex

namespace AmpComponents
namespace FileTree

/-! ## Reading what was written -/

theorem node?_insert_self (t : FileTree) {place : Place} (node : FileNode) (h : place ≠ []) :
    FileTree.node? { t with nodes := t.nodes.insert place node } place = some node := by
  rw [node?, if_neg h]
  exact OrderedMap.find?_insert_self ..

theorem node?_congr {t : FileTree} {nodes : OrderedMap Place FileNode} {place : Place}
    (h : nodes.find? place = t.nodes.find? place) :
    FileTree.node? { t with nodes := nodes } place = t.node? place := by
  simp only [node?, h]

theorem node?_insert_of_ne (t : FileTree) {place other : Place} (node : FileNode)
    (h : other ≠ place) :
    FileTree.node? { t with nodes := t.nodes.insert place node } other = t.node? other :=
  node?_congr (OrderedMap.find?_insert_of_ne h ..)

theorem node?_erase_self (t : FileTree) {place : Place} (h : place ≠ []) :
    FileTree.node? { t with nodes := t.nodes.erase place } place = none := by
  rw [node?, if_neg h]
  exact OrderedMap.find?_erase_self ..

theorem node?_erase_of_ne (t : FileTree) {place other : Place} (h : other ≠ place) :
    FileTree.node? { t with nodes := t.nodes.erase place } other = t.node? other :=
  node?_congr (OrderedMap.find?_erase_of_ne h ..)

/-- The directories of the first tree are directories of the second, and the second has
something wherever the first has. -/
structure Keeps (t u : FileTree) : Prop where
  current : u.current = t.current
  directory {place : Place} : t.node? place = some .directory → u.node? place = some .directory
  present {place : Place} : (t.node? place).isSome → (u.node? place).isSome

section Keeps

variable {t u : FileTree}

theorem Keeps.origin (h : t.Keeps u) (p : Path) : u.origin p = t.origin p := by
  rw [FileTree.origin, FileTree.origin, h.current]

theorem directory_of_step {place next : Place} {name : String} (h : t.step place name = .ok next) :
    t.node? place = some .directory := by
  unfold step at h
  split at h
  · cases h
  · cases h
  · next hnode => exact hnode

theorem Keeps.step (h : t.Keeps u) {place next : Place} {name : String}
    (hstep : t.step place name = .ok next) : u.step place name = .ok next := by
  have hbefore : t.node? place = some .directory := directory_of_step hstep
  have hafter : u.node? place = some .directory := h.directory hbefore
  rw [← hstep]
  simp only [FileTree.step, hbefore, hafter]

theorem Keeps.walk (h : t.Keeps u) {place last : Place} {names : List String}
    (hwalk : t.walk place names = .ok last) : u.walk place names = .ok last := by
  induction names generalizing place with
  | nil => exact hwalk
  | cons name names ih =>
    obtain ⟨next, hstep, hthere, hrest⟩ := walk_cons_eq_ok.1 hwalk
    exact walk_cons_eq_ok.2 ⟨next, h.step hstep, h.present hthere, ih hrest⟩

theorem walk_append (t : FileTree) (place : Place) (names others : List String) :
    t.walk place (names ++ others) = t.walk place names >>= (t.walk · others) := by
  induction names generalizing place with
  | nil => rfl
  | cons name names ih =>
    rw [List.cons_append, walk, walk]
    cases t.step place name with
    | error fault => rfl
    | ok next =>
      simp only [bind, Except.bind]
      split
      · exact ih next
      · rfl

theorem walk_concat {place middle last : Place} {names : List String} {name : String}
    (hwalk : t.walk place names = .ok middle) (hstep : t.step middle name = .ok last)
    (hthere : (t.node? last).isSome) : t.walk place (names ++ [name]) = .ok last := by
  rw [walk_append, hwalk]
  exact walk_cons_eq_ok.2 ⟨last, hstep, hthere, rfl⟩

/-- A file in the place of what is no directory. -/
theorem keeps_insert_file {place : Place} (bytes : ByteArray) (hplace : place ≠ [])
    (hnode : t.node? place ≠ some .directory) :
    t.Keeps { t with nodes := t.nodes.insert place (.file bytes) } where
  current := rfl
  directory := by
    intro other hother
    have hne : other ≠ place := by
      rintro rfl
      exact hnode hother
    rw [node?_insert_of_ne t _ hne]
    exact hother
  present := by
    intro other hother
    by_cases hne : other = place
    · rw [hne, node?_insert_self t _ hplace]
      rfl
    · rw [node?_insert_of_ne t _ hne]
      exact hother

end Keeps

/-- A file is written under the last name of its path. -/
theorem place_of_writePlace {t : FileTree} {p : Path} {place : Place}
    (h : t.writePlace p = .ok place) :
    ∃ outer name, p.parts.getLast? = some name ∧ place = outer ++ [name] := by
  obtain ⟨name, outer, -, hname, -, hdots, -, hstep, -⟩ := writePlace_cases h
  simp only [isDots, Bool.or_eq_false_iff, decide_eq_false_iff_not] at hdots
  refine ⟨outer, name, hname, ?_⟩
  rw [eq_follow_of_step hstep, follow, if_neg hdots.1, if_neg hdots.2]

theorem readBytes_of_writeBytes {t next : FileTree} {p : Path} {content : ByteArray}
    (h : t.writeBytes p content = .ok next) : next.readBytes p = .ok content := by
  obtain ⟨place, hplace, rfl⟩ := eq_insert_of_writeBytes h
  have hne : place ≠ [] := by
    obtain ⟨outer, name, -, rfl⟩ := place_of_writePlace hplace
    simp
  obtain ⟨name, outer, hcheck, hname, houter, -, hslashed, hstep, hnode⟩ :=
    writePlace_cases hplace
  have hkeeps := keeps_insert_file content hne hnode
  have hfile := node?_insert_self t (.file content) hne
  have hwalk : FileTree.walk { t with nodes := t.nodes.insert place (.file content) }
      (t.origin p) p.parts = .ok place := by
    have hparts : p.parts.dropLast ++ [name] = p.parts := List.dropLast_append_getLast? name hname
    rw [← hparts]
    refine walk_concat (hkeeps.walk (outer_cases houter).1) (hkeeps.step hstep) ?_
    rw [hfile]
    rfl
  simp only [readBytes, locate, hcheck, hkeeps.origin, hwalk, hfile, hslashed, bind, Except.bind,
    Bool.false_eq_true, if_false]

instance : SteadyStore FileTree where
  run_readBytes _ _ := rfl
  run_isDirectory _ _ := rfl
  holds_writeBytes h := by
    exact holdsBytes_of_readBytes (readBytes_of_writeBytes (eq_ok_of_update h))
  eq_of_holds h hothers := FileNode.file.inj (Option.some.inj (h.symm.trans hothers))

/-! ## Removing a file -/

def withoutFile (t : FileTree) (p : Path) : FileTree :=
  { t with nodes := t.nodes.erase (t.place p) }

/-- A file that can be read can be removed. -/
theorem run_removeFile {t : FileTree} {p : Path} {bytes : ByteArray}
    (h : t.readBytes p = .ok bytes) :
    FileAccess.removeFile (m := StateM FileTree) p t = (.ok (), t.withoutFile p) := by
  have hremove : t.removeFile p = .ok (t.withoutFile p) := by
    simp only [removeFile, locate_of_readBytes h, bind, Except.bind]
    rfl
  show update (·.removeFile p) t = _
  simp only [update, hremove]

/-! ## Making directories -/

/-- The second tree is the first with directories where nothing was, at the places of some
paths. -/
structure AddsDirectories (paths : Path → Prop) (t u : FileTree) : Prop where
  current : u.current = t.current
  node? (place : Place) : u.node? place = t.node? place ∨
    ∃ q, paths q ∧ place = t.place q ∧ t.node? place = none ∧ u.node? place = some .directory

section AddsDirectories

variable {paths : Path → Prop} {t u v : FileTree}

theorem place_eq_of_current (h : u.current = t.current) (p : Path) : u.place p = t.place p := by
  rw [place, place, origin, origin, h]

theorem AddsDirectories.refl (t : FileTree) : AddsDirectories paths t t :=
  ⟨rfl, fun _ => .inl rfl⟩

theorem AddsDirectories.trans (htu : AddsDirectories paths t u) (huv : AddsDirectories paths u v) :
    AddsDirectories paths t v := by
  refine ⟨huv.current.trans htu.current, fun place => ?_⟩
  rcases htu.node? place with hfirst | ⟨q, hq, hplace, hfree, hmade⟩
  · rcases huv.node? place with hsecond | ⟨q, hq, hplace, hfree, hmade⟩
    · exact .inl (hsecond.trans hfirst)
    · rw [place_eq_of_current htu.current] at hplace
      exact .inr ⟨q, hq, hplace, hfirst.symm.trans hfree, hmade⟩
  · rcases huv.node? place with hsecond | ⟨_, _, _, htaken, _⟩
    · exact .inr ⟨q, hq, hplace, hfree, hsecond.trans hmade⟩
    · rw [hmade] at htaken
      cases htaken

/-- A file of the second tree is one of the first. -/
theorem AddsDirectories.file (h : AddsDirectories paths t u) {place : Place} {bytes : ByteArray}
    (hfile : u.node? place = some (.file bytes)) : t.node? place = some (.file bytes) := by
  rcases h.node? place with hsame | ⟨_, _, _, _, hmade⟩
  · exact hsame.symm.trans hfile
  · rw [hmade] at hfile
    cases hfile

theorem addsDirectories_makeDirectory {p : Path} (hp : paths p) (t : FileTree) :
    AddsDirectories paths t (FileAccess.makeDirectory (m := StateM FileTree) p t).2 := by
  show AddsDirectories paths t (update (·.makeDirectory p) t).2
  cases hmake : t.makeDirectory p with
  | error fault =>
    simp only [update, hmake]
    exact .refl t
  | ok next =>
    obtain ⟨hfree, rfl⟩ := eq_insert_of_makeDirectory hmake
    simp only [update, hmake]
    refine ⟨rfl, fun place => ?_⟩
    by_cases hplace : place = t.place p
    · have hne : t.place p ≠ [] := by
        intro hroot
        rw [hroot] at hfree
        cases hfree
      rw [hplace]
      exact .inr ⟨p, hp, rfl, hfree, node?_insert_self t _ hne⟩
    · exact .inl (node?_insert_of_ne t _ hplace)

theorem addsDirectories_of_tries (h : TriesDirectories paths t u) : AddsDirectories paths t u := by
  induction h with
  | refl => exact .refl t
  | tail _ hstep ih =>
    obtain ⟨hp⟩ := hstep
    exact ih.trans (addsDirectories_makeDirectory hp _)

end AddsDirectories

end FileTree
end AmpComponents
