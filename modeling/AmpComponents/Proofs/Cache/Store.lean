/-
What may be in a file.

A `FileStore` is a place for files that is a state, of which only this is known: `Holds s p b`
says that in the state `s` the file that `p` leads to holds the bytes `b`, a file that can be
read holds what is read, a write puts the bytes it was given or nothing, and no other operation
puts bytes anywhere.  Any operation may fail, also one that worked before, and nothing is said
about which paths lead to one file.

A `SteadyStore` is one in which looking changes nothing, and which holds what was last written to
it.  There too any operation may fail, so that a file which can be read need not be one that can be
removed, nor one that was written one that can be read.  A `FileTree` is such a place.

`AddsNothing` is the property of an action that puts bytes nowhere.  It goes from the operations
to what is built from them.
-/
import AmpComponents.Files.Tree
import AmpComponents.Proofs.Files.Actions
import Mathlib.Data.List.Basic
import Mathlib.Logic.Relation

namespace AmpComponents

/-! ## Stores -/

/-- What files hold after the action they held before. -/
def AddsNothing {σ α : Type} (Holds : σ → Path → ByteArray → Prop) (action : StateM σ α) : Prop :=
  ∀ s p bytes, Holds (action s).2 p bytes → Holds s p bytes

class FileStore (σ : Type) [FileAccess (StateM σ)] where
  /-- The file at the end of a path holds these bytes. -/
  Holds : σ → Path → ByteArray → Prop
  /-- What is read is held. -/
  holds_of_readBytes {s : σ} {p : Path} {bytes : ByteArray} :
    (FileAccess.readBytes (m := StateM σ) p s).1 = .ok bytes → Holds s p bytes
  addsNothing_readBytes (p : Path) :
    AddsNothing Holds (FileAccess.readBytes (m := StateM σ) p)
  addsNothing_makeDirectory (p : Path) :
    AddsNothing Holds (FileAccess.makeDirectory (m := StateM σ) p)
  addsNothing_isDirectory (p : Path) :
    AddsNothing Holds (FileAccess.isDirectory (m := StateM σ) p)
  addsNothing_removeFile (p : Path) :
    AddsNothing Holds (FileAccess.removeFile (m := StateM σ) p)
  /-- What a file holds after a write it held before, or it is what was written. -/
  holds_of_writeBytes {s : σ} {p q : Path} {content bytes : ByteArray} :
    Holds (FileAccess.writeBytes (m := StateM σ) p content s).2 q bytes →
      Holds s q bytes ∨ bytes = content

open FileStore (Holds)

/-! ## Actions -/

theorem run_bind {σ α β : Type} (x : StateM σ α) (f : α → StateM σ β) (s : σ) :
    (x >>= f) s = f (x s).1 (x s).2 := rfl

section Actions

variable {σ α β : Type} [FileAccess (StateM σ)] [FileStore σ]

theorem addsNothing_pure (a : α) : AddsNothing Holds (pure a : StateM σ α) :=
  fun _ _ _ h => h

theorem addsNothing_bind {x : StateM σ α} {f : α → StateM σ β} (hx : AddsNothing Holds x)
    (hf : ∀ a, AddsNothing Holds (f a)) : AddsNothing Holds (x >>= f) := by
  intro s p bytes h
  rw [run_bind] at h
  have hmiddle : Holds (x s).2 p bytes := hf (x s).1 (x s).2 p bytes h
  exact hx s p bytes hmiddle

theorem composes_addsNothing :
    Composes (m := StateM σ) fun _ action => AddsNothing Holds action :=
  ⟨addsNothing_pure, addsNothing_bind⟩

theorem addsNothing_readText (p : Path) :
    AddsNothing Holds (FileAccess.readText (m := StateM σ) p) :=
  composes_addsNothing.readText (FileStore.addsNothing_readBytes p)

theorem addsNothing_makeDirectories (p : Path) :
    AddsNothing Holds (FileAccess.makeDirectories (m := StateM σ) p) :=
  composes_addsNothing.makeDirectories p (fun q _ => FileStore.addsNothing_makeDirectory q)
    (fun q _ => FileStore.addsNothing_isDirectory q)

end Actions

/-! ## Texts -/

section Texts

variable {σ : Type} [FileAccess (StateM σ)] {s u : σ} {p : Path} {text : String}

/-- The text of a file, or what keeps it from being read. -/
def textIn (s : σ) (p : Path) : Except FileFault String :=
  (FileAccess.readText (m := StateM σ) p s).1

theorem textIn_eq (s : σ) (p : Path) :
    textIn s p = (do
      let bytes ← (FileAccess.readBytes (m := StateM σ) p s).1
      match String.fromUTF8? bytes with
      | some text => .ok text
      | none => .error .notText) := by
  rw [textIn, FileAccess.readText, run_bind]
  cases (FileAccess.readBytes (m := StateM σ) p s).1 with
  | error fault => rfl
  | ok bytes =>
    simp only [bind, Except.bind]
    cases String.fromUTF8? bytes with
    | none => rfl
    | some text => rfl

theorem textIn_eq_ok_iff :
    textIn s p = .ok text ↔
      ∃ bytes, (FileAccess.readBytes (m := StateM σ) p s).1 = .ok bytes ∧
        String.fromUTF8? bytes = some text := by
  rw [textIn_eq, bind_eq_ok_iff]
  refine exists_congr fun bytes => and_congr_right fun _ => ?_
  cases String.fromUTF8? bytes with
  | none => simp
  | some found => simp

/-- A text depends on the state by the bytes of its file. -/
theorem textIn_congr
    (h : (FileAccess.readBytes (m := StateM σ) p s).1 =
      (FileAccess.readBytes (m := StateM σ) p u).1) : textIn s p = textIn u p := by
  rw [textIn_eq, textIn_eq, h]

/-- A text is read from bytes that are held. -/
theorem holds_of_textIn [FileStore σ] (h : textIn s p = .ok text) :
    ∃ bytes, Holds s p bytes ∧ String.fromUTF8? bytes = some text := by
  obtain ⟨bytes, hread, htext⟩ := textIn_eq_ok_iff.1 h
  exact ⟨bytes, FileStore.holds_of_readBytes hread, htext⟩

end Texts

/-! ## Steady stores -/

class SteadyStore (σ : Type) [FileAccess (StateM σ)] extends FileStore σ where
  run_readBytes (p : Path) (s : σ) : (FileAccess.readBytes (m := StateM σ) p s).2 = s
  run_isDirectory (p : Path) (s : σ) : (FileAccess.isDirectory (m := StateM σ) p s).2 = s
  /-- What was written is held, -/
  holds_writeBytes {s u : σ} {p : Path} {bytes : ByteArray} :
    FileAccess.writeBytes (m := StateM σ) p bytes s = (.ok (), u) → Holds u p bytes
  /-- and nothing else. -/
  eq_of_holds {s : σ} {p : Path} {bytes others : ByteArray} :
    Holds s p bytes → Holds s p others → bytes = others

/-- Reading leaves the state. -/
theorem run_readText {σ : Type} [FileAccess (StateM σ)] [SteadyStore σ] (p : Path) (s : σ) :
    FileAccess.readText (m := StateM σ) p s = (textIn s p, s) := by
  refine Prod.ext rfl ?_
  rw [FileAccess.readText, run_bind, SteadyStore.run_readBytes]
  cases (FileAccess.readBytes (m := StateM σ) p s).1 with
  | error fault => rfl
  | ok bytes =>
    simp only
    cases String.fromUTF8? bytes with
    | none => rfl
    | some text => rfl

theorem holds_writeText_iff {σ : Type} [FileAccess (StateM σ)] [SteadyStore σ] {s u : σ}
    {p : Path} {text : String}
    (h : FileAccess.writeText (m := StateM σ) p text s = (.ok (), u)) (bytes : ByteArray) :
    Holds u p bytes ↔ bytes = text.toByteArray := by
  have hwritten : Holds u p text.toByteArray := SteadyStore.holds_writeBytes h
  constructor
  · exact fun hholds => SteadyStore.eq_of_holds hholds hwritten
  · rintro rfl
    exact hwritten

/-! ## Making directories -/

section Directories

variable {σ : Type} [FileAccess (StateM σ)] {paths : Path → Prop} {s u : σ}

/-- One attempt to make a directory of one of the paths. -/
inductive TriesDirectory (paths : Path → Prop) (s : σ) : σ → Prop where
  | attempt {p : Path} : paths p →
      TriesDirectory paths s (FileAccess.makeDirectory (m := StateM σ) p s).2

/-- Any number of attempts, one after the other. -/
abbrev TriesDirectories (paths : Path → Prop) : σ → σ → Prop :=
  Relation.ReflTransGen (TriesDirectory paths)

/-- A path is made by attempts on the directories it lies in. -/
theorem triesDirectories_makeDirectories [SteadyStore σ] (p : Path) (s : σ) :
    TriesDirectories p.LiesIn s (FileAccess.makeDirectories (m := StateM σ) p s).2 := by
  have hcomposes : Composes (m := StateM σ) fun _ action =>
      ∀ s, TriesDirectories p.LiesIn s (action s).2 := by
    refine ⟨fun _ _ => .refl, ?_⟩
    intro α β x f hx hf s
    rw [run_bind]
    have hsecond : TriesDirectories p.LiesIn (x s).2 (f (x s).1 (x s).2).2 := hf _ _
    exact (hx s).trans hsecond
  refine hcomposes.makeDirectories p (fun q hq s => .single (.attempt hq)) (fun q _ s => ?_) s
  rw [SteadyStore.run_isDirectory]

theorem holds_of_triesDirectories [FileStore σ] (h : TriesDirectories paths s u) {p : Path}
    {bytes : ByteArray} (hholds : Holds u p bytes) : Holds s p bytes := by
  induction h with
  | refl => exact hholds
  | tail _ hstep ih =>
    obtain ⟨-⟩ := hstep
    exact ih (FileStore.addsNothing_makeDirectory _ _ p bytes hholds)

end Directories

/-! ## Trees -/

namespace FileTree

/-- The place of a name in a directory, whatever is there. -/
def follow (place : Place) (name : String) : Place :=
  if name = "." then place else if name = ".." then place.dropLast else place ++ [name]

/-- The place a path leads to, by its names alone. -/
def place (t : FileTree) (p : Path) : Place := p.parts.foldl follow (t.origin p)

theorem eq_follow_of_step {t : FileTree} {place next : Place} {name : String}
    (h : t.step place name = .ok next) : next = follow place name := by
  unfold step at h
  unfold follow
  split at h
  · cases h
  · cases h
  · split at h
    · next hdot => rw [if_pos hdot, Except.ok.inj h]
    · next hdot =>
      rw [if_neg hdot]
      split at h
      · next hdots => rw [if_pos hdots, Except.ok.inj h]
      · next hdots =>
        rw [if_neg hdots]
        split at h
        · cases h
        · exact (Except.ok.inj h).symm

theorem walk_cons_eq_ok {t : FileTree} {place last : Place} {name : String} {names : List String} :
    t.walk place (name :: names) = .ok last ↔
      ∃ next, t.step place name = .ok next ∧ (t.node? next).isSome ∧
        t.walk next names = .ok last := by
  rw [walk, bind_eq_ok_iff]
  constructor
  · rintro ⟨next, hstep, hrest⟩
    split at hrest
    · next hthere => exact ⟨next, hstep, hthere, hrest⟩
    · cases hrest
  · rintro ⟨next, hstep, hthere, hrest⟩
    exact ⟨next, hstep, (if_pos hthere).trans hrest⟩

theorem eq_foldl_of_walk {t : FileTree} {place last : Place} {names : List String}
    (h : t.walk place names = .ok last) : last = names.foldl follow place := by
  induction names generalizing place with
  | nil => exact (Except.ok.inj h).symm
  | cons name names ih =>
    obtain ⟨next, hstep, -, hrest⟩ := walk_cons_eq_ok.1 h
    rw [List.foldl_cons, ← eq_follow_of_step hstep]
    exact ih hrest

/-- What is found at the end of a path stands at its place. -/
theorem node?_of_locate {t : FileTree} {p : Path} {found : Place × FileNode}
    (h : t.locate p = .ok found) : found.1 = t.place p ∧ t.node? found.1 = some found.2 := by
  unfold locate at h
  obtain ⟨-, -, h⟩ := bind_eq_ok_iff.1 h
  obtain ⟨last, hwalk, h⟩ := bind_eq_ok_iff.1 h
  have hlast : last = t.place p := eq_foldl_of_walk hwalk
  split at h
  · cases h
  · next hnode =>
    split at h
    · cases h
    · cases h
      exact ⟨hlast, hnode⟩
  · next hnode =>
    cases h
    exact ⟨hlast, hnode⟩

/-- The file at the place of a path holds these bytes. -/
def HoldsBytes (t : FileTree) (p : Path) (bytes : ByteArray) : Prop :=
  t.nodes.find? (t.place p) = some (.file bytes)

theorem locate_of_readBytes {t : FileTree} {p : Path} {bytes : ByteArray}
    (h : t.readBytes p = .ok bytes) : t.locate p = .ok (t.place p, .file bytes) := by
  unfold readBytes at h
  obtain ⟨⟨place, node⟩, hlocate, h⟩ := bind_eq_ok_iff.1 h
  obtain ⟨hplace, -⟩ := node?_of_locate hlocate
  rw [hlocate, ← hplace]
  cases node with
  | directory => cases h
  | file content =>
    cases h
    rfl

theorem node?_of_readBytes {t : FileTree} {p : Path} {bytes : ByteArray}
    (h : t.readBytes p = .ok bytes) : t.node? (t.place p) = some (.file bytes) :=
  (node?_of_locate (locate_of_readBytes h)).2

theorem holdsBytes_of_readBytes {t : FileTree} {p : Path} {bytes : ByteArray}
    (h : t.readBytes p = .ok bytes) : t.HoldsBytes p bytes := by
  have hnode := node?_of_readBytes h
  unfold node? at hnode
  split at hnode
  · cases hnode
  · exact hnode

/-- Every operation leaves the current directory, so the place of a path stays. -/
theorem place_withNodes (t : FileTree) (nodes : OrderedMap Place FileNode) (p : Path) :
    FileTree.place { t with nodes := nodes } p = t.place p := rfl

theorem holdsBytes_insert {t : FileTree} {place : Place} {node : FileNode} {p : Path}
    {bytes : ByteArray}
    (h : FileTree.HoldsBytes { t with nodes := t.nodes.insert place node } p bytes) :
    t.HoldsBytes p bytes ∨ node = .file bytes := by
  unfold HoldsBytes at h
  rw [place_withNodes] at h
  by_cases hplace : t.place p = place
  · rw [hplace, OrderedMap.find?_insert_self] at h
    exact .inr (Option.some.inj h)
  · rw [OrderedMap.find?_insert_of_ne hplace] at h
    exact .inl h

theorem holdsBytes_erase {t : FileTree} {place : Place} {p : Path} {bytes : ByteArray}
    (h : FileTree.HoldsBytes { t with nodes := t.nodes.erase place } p bytes) :
    t.HoldsBytes p bytes := by
  unfold HoldsBytes at h
  rw [place_withNodes] at h
  by_cases hplace : t.place p = place
  · rw [hplace, OrderedMap.find?_erase_self] at h
    cases h
  · rw [OrderedMap.find?_erase_of_ne hplace] at h
    exact h

/-! ### What an operation that succeeds does -/

theorem outer_cases {t : FileTree} {p : Path} {place : Place} (h : t.outer p = .ok place) :
    t.walk (t.origin p) p.parts.dropLast = .ok place ∧ t.node? place = some .directory := by
  unfold outer at h
  obtain ⟨last, hwalk, h⟩ := bind_eq_ok_iff.1 h
  split at h
  · next hnode =>
    cases h
    exact ⟨hwalk, hnode⟩
  · cases h

/-- The last name leads from the directory outside to the place of the path. -/
theorem eq_place_of_step {t : FileTree} {p : Path} {outer place : Place} {name : String}
    (hname : p.parts.getLast? = some name) (houter : t.outer p = .ok outer)
    (hstep : t.step outer name = .ok place) : place = t.place p := by
  have hparts : p.parts.dropLast ++ [name] = p.parts := List.dropLast_append_getLast? name hname
  have hwalk := eq_foldl_of_walk (outer_cases houter).1
  have hplace : t.place p = (p.parts.dropLast ++ [name]).foldl follow (t.origin p) := by
    rw [hparts]
    rfl
  rw [hplace, List.foldl_append, ← hwalk]
  exact eq_follow_of_step hstep

theorem writePlace_cases {t : FileTree} {p : Path} {place : Place}
    (h : t.writePlace p = .ok place) :
    ∃ name outer, checkPath p = .ok () ∧ p.parts.getLast? = some name ∧ t.outer p = .ok outer ∧
      isDots name = false ∧ p.slashed = false ∧ t.step outer name = .ok place ∧
      t.node? place ≠ some .directory := by
  unfold writePlace at h
  obtain ⟨_, hcheck, h⟩ := bind_eq_ok_iff.1 h
  split at h
  · cases h
  next name hname =>
  obtain ⟨outer, houter, h⟩ := bind_eq_ok_iff.1 h
  split at h
  · cases h
  next hdots =>
  simp only [Bool.or_eq_true, not_or, Bool.not_eq_true] at hdots
  obtain ⟨found, hstep, h⟩ := bind_eq_ok_iff.1 h
  split at h
  · cases h
  next hnode =>
  cases h
  exact ⟨name, outer, hcheck, hname, houter, hdots.1, hdots.2, hstep, hnode⟩

theorem eq_insert_of_writeBytes {t next : FileTree} {p : Path} {content : ByteArray}
    (h : t.writeBytes p content = .ok next) :
    ∃ place, t.writePlace p = .ok place ∧
      next = { t with nodes := t.nodes.insert place (.file content) } := by
  unfold writeBytes at h
  obtain ⟨place, hplace, h⟩ := bind_eq_ok_iff.1 h
  exact ⟨place, hplace, (Except.ok.inj h).symm⟩

theorem eq_insert_of_makeDirectory {t next : FileTree} {p : Path}
    (h : t.makeDirectory p = .ok next) :
    t.node? (t.place p) = none ∧
      next = { t with nodes := t.nodes.insert (t.place p) .directory } := by
  unfold makeDirectory at h
  obtain ⟨-, -, h⟩ := bind_eq_ok_iff.1 h
  split at h
  · cases h
  next name hname =>
  obtain ⟨outer, houter, h⟩ := bind_eq_ok_iff.1 h
  split at h
  · cases h
  obtain ⟨place, hstep, h⟩ := bind_eq_ok_iff.1 h
  obtain rfl := eq_place_of_step hname houter hstep
  split at h
  · cases h
  · next hfree => exact ⟨hfree, (Except.ok.inj h).symm⟩

theorem eq_erase_of_removeFile {t next : FileTree} {p : Path} (h : t.removeFile p = .ok next) :
    next = { t with nodes := t.nodes.erase (t.place p) } := by
  unfold removeFile at h
  obtain ⟨⟨place, node⟩, hlocate, h⟩ := bind_eq_ok_iff.1 h
  obtain ⟨hplace, -⟩ := node?_of_locate hlocate
  rw [← hplace]
  cases node with
  | directory => cases h
  | file content => exact (Except.ok.inj h).symm

theorem eq_ok_of_update {f : FileTree → Except FileFault FileTree} {t u : FileTree}
    (h : update f t = (.ok (), u)) : f t = .ok u := by
  unfold update at h
  split at h
  · next next hnext =>
    cases h
    exact hnext
  · cases h

/-- A tree changes only when an operation succeeds. -/
theorem holdsBytes_update {f : FileTree → Except FileFault FileTree} {t : FileTree} {p : Path}
    {bytes : ByteArray} (h : HoldsBytes (update f t).2 p bytes) :
    t.HoldsBytes p bytes ∨ ∃ next, f t = .ok next ∧ next.HoldsBytes p bytes := by
  unfold update at h
  split at h
  · next next hnext => exact .inr ⟨next, hnext, h⟩
  · exact .inl h

theorem addsNothing_makeDirectory (p : Path) :
    AddsNothing HoldsBytes (update (·.makeDirectory p)) := by
  intro t q bytes h
  rcases holdsBytes_update h with hold | ⟨next, hnext, hholds⟩
  · exact hold
  · obtain ⟨-, rfl⟩ := eq_insert_of_makeDirectory hnext
    rcases holdsBytes_insert hholds with hold | hnode
    · exact hold
    · cases hnode

theorem addsNothing_removeFile (p : Path) : AddsNothing HoldsBytes (update (·.removeFile p)) := by
  intro t q bytes h
  rcases holdsBytes_update h with hold | ⟨next, hnext, hholds⟩
  · exact hold
  · obtain rfl := eq_erase_of_removeFile hnext
    exact holdsBytes_erase hholds

theorem holdsBytes_writeBytes {t : FileTree} {p q : Path} {content bytes : ByteArray}
    (h : HoldsBytes (update (·.writeBytes p content) t).2 q bytes) :
    t.HoldsBytes q bytes ∨ bytes = content := by
  rcases holdsBytes_update h with hold | ⟨next, hnext, hholds⟩
  · exact .inl hold
  · obtain ⟨place, -, rfl⟩ := eq_insert_of_writeBytes hnext
    rcases holdsBytes_insert hholds with hold | hnode
    · exact .inl hold
    · exact .inr (FileNode.file.inj hnode).symm

instance : FileStore FileTree where
  Holds := HoldsBytes
  holds_of_readBytes h := holdsBytes_of_readBytes h
  addsNothing_readBytes _ _ _ _ h := h
  addsNothing_makeDirectory p := addsNothing_makeDirectory p
  addsNothing_isDirectory _ _ _ _ h := h
  addsNothing_removeFile p := addsNothing_removeFile p
  holds_of_writeBytes h := holdsBytes_writeBytes h

end FileTree
end AmpComponents
