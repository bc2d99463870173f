/-
Entries are kept apart.

The entry of an output name is one file, right in the cache directory whatever the name is, and
looking it up or storing it works on this file only.  A lookup takes the file away exactly when it
is text and no entry; in a store that may refuse to remove it, the lookup tries to and finds nothing
either way.  `IsConfined` says this of a name.

After a module was stored, `AnswersAfter` says what is found under each name: where the name has
the same file, the module under its hash and nothing under another hash; where it has not, what
would have been found before.  `isConfined_and_answersAfter` is both, for every tree of files.
-/
import AmpComponents.Proofs.Cache.Transparency
import AmpComponents.Proofs.Files.Siblings

namespace AmpComponents

/-! ## File names -/

theorem splitSlashes_of_not_mem {piece s : List Char} (h : '/' ∉ s) :
    splitSlashes piece s = [piece.reverse ++ s] := by
  induction s generalizing piece with
  | nil => rw [splitSlashes, List.append_nil]
  | cons c s ih =>
    rw [List.mem_cons, not_or] at h
    rw [splitSlashes, if_neg (Ne.symm h.1), ih h.2, List.reverse_cons, List.append_assoc]
    rfl

/-- A text without slashes is the path of one name. -/
theorem Path.ofText_of_not_mem {s : String} (h : '/' ∉ s.toList) (hne : s ≠ "") :
    Path.ofText s = ⟨false, [s], false⟩ := by
  have hchars : s.toList ≠ [] := fun e => hne (String.toList_eq_nil_iff.1 e)
  have hhead : s.toList.head? ≠ some '/' := fun e => h (List.mem_of_head? e)
  have hlast : s.toList.getLast? ≠ some '/' := fun e => h (List.mem_of_getLast? e)
  simp [ofText, splitSlashes_of_not_mem h, hchars, hhead, hlast]

namespace Cache

theorem slash_not_mem_entryName (outputName : String) :
    '/' ∉ (safeName outputName ++ ".json").toList := by
  have hsuffix : '/' ∉ ".json".toList := by decide
  rw [String.toList_append, List.mem_append, safeName, String.toList_ofList]
  rintro (h | h)
  · obtain ⟨c, -, hc⟩ := List.mem_map.1 h
    split at hc
    · exact absurd hc (by decide)
    · next hplain => exact hplain (by simp [hc])
  · exact hsuffix h

theorem entryPath_eq_child (cache : Cache) (outputName : String) :
    ∃ stem, cache.entryPath outputName = cache.directory.child (stem ++ ".json") ∧
      Path.ofText (stem ++ ".json") = ⟨false, [stem ++ ".json"], false⟩ ∧
      ∀ t : FileTree, t.place (cache.entryPath outputName) =
        t.place cache.directory ++ [stem ++ ".json"] := by
  refine ⟨safeName outputName, rfl, ?_, place_entryPath cache outputName⟩
  refine Path.ofText_of_not_mem (slash_not_mem_entryName outputName) fun h => ?_
  have hlength := congrArg (fun s : String => s.toList.length) h
  simp at hlength

theorem place_entryPath_ne_nil (cache : Cache) (outputName : String) (t : FileTree) :
    t.place (cache.entryPath outputName) ≠ [] := by
  rw [place_entryPath]
  simp

theorem place_entryPath_ne {name other : String} (h : safeName other ≠ safeName name)
    (cache : Cache) (t : FileTree) :
    t.place (cache.entryPath other) ≠ t.place (cache.entryPath name) := by
  rw [place_entryPath, place_entryPath]
  intro heq
  have hnames := List.singleton_inj.1 (List.append_cancel_left heq)
  exact h ((String.append_left_inj _).1 hnames)

/-! ## One name -/

section Work

variable {m : Type → Type} [Monad m] [FileAccess m]

theorem worksOn_get (cache : Cache) (outputName hash : String) :
    WorksOn (cache.entryPath outputName) _ (cache.get (m := m) outputName hash) := by
  refine .bind (worksOn_readText _) fun result => ?_
  cases result with
  | error fault => exact .pure _
  | ok text =>
    simp only
    split
    · exact .bind .removeFile fun _ => .pure _
    · exact .pure _

theorem worksOn_set (cache : Cache) (outputName hash code : String) :
    WorksOn (cache.entryPath outputName) _ (cache.set (m := m) outputName hash code) :=
  .bind (.writeBytes _) fun _ => .pure _

end Work

section HoldsCorrupt

variable {cache : Cache} {outputName : String} {t : FileTree}

/-- In a tree a file that can be read can be removed. -/
theorem run_get_of_holdsCorrupt_tree (h : cache.HoldsCorrupt outputName t) (hash : String) :
    cache.get (m := StateM FileTree) outputName hash t =
      (none, t.withoutFile (cache.entryPath outputName)) := by
  obtain ⟨bytes, hread, -⟩ := h.exists_readBytes
  rw [run_get_of_holdsCorrupt h, FileTree.run_removeFile hread]

theorem withoutFile_ne_of_holdsCorrupt (h : cache.HoldsCorrupt outputName t) :
    t.withoutFile (cache.entryPath outputName) ≠ t := by
  obtain ⟨bytes, hread, -⟩ := h.exists_readBytes
  intro heq
  -- the text was read from a file, and without it there is none
  have hgone := t.node?_withoutFile_self (place_entryPath_ne_nil cache outputName t)
  rw [heq, FileTree.node?_of_readBytes hread] at hgone
  cases hgone

theorem run_get_ne_iff (cache : Cache) (outputName hash : String) (t : FileTree) :
    (cache.get (m := StateM FileTree) outputName hash t).2 ≠ t ↔
      cache.HoldsCorrupt outputName t := by
  constructor
  · intro hne
    by_contra h
    exact hne (run_get_of_not_holdsCorrupt h hash)
  · intro h
    rw [run_get_of_holdsCorrupt_tree h]
    exact withoutFile_ne_of_holdsCorrupt h

end HoldsCorrupt

/-- What a name has to do with files: one file, in the directory itself. -/
structure IsConfined (cache : Cache) (outputName : String) : Prop where
  /-- The file has a name of its own, which is not a way out of the directory. -/
  file : ∃ stem, cache.entryPath outputName = cache.directory.child (stem ++ ".json") ∧
    Path.ofText (stem ++ ".json") = ⟨false, [stem ++ ".json"], false⟩ ∧
    ∀ t : FileTree, t.place (cache.entryPath outputName) =
      t.place cache.directory ++ [stem ++ ".json"]
  get_worksOn {m : Type → Type} [Monad m] [FileAccess m] (hash : String) :
    WorksOn (cache.entryPath outputName) _ (cache.get (m := m) outputName hash)
  set_worksOn {m : Type → Type} [Monad m] [FileAccess m] (hash code : String) :
    WorksOn (cache.entryPath outputName) _ (cache.set (m := m) outputName hash code)
  get_changes (hash : String) (t : FileTree) :
    FileTree.ChangesOnly (t.place (cache.entryPath outputName)) t
      (cache.get (m := StateM FileTree) outputName hash t).2
  set_changes (hash code : String) (t : FileTree) :
    FileTree.ChangesOnly (t.place (cache.entryPath outputName)) t
      (cache.set (m := StateM FileTree) outputName hash code t).2
  /-- In a store where a removal may fail too, a lookup that finds a corrupt file gives nothing and
  leaves what the removal leaves. -/
  get_corrupt {σ : Type} [FileAccess (StateM σ)] [SteadyStore σ] {s : σ} (hash : String) :
    cache.HoldsCorrupt outputName s →
      cache.get (m := StateM σ) outputName hash s =
        (none, (FileAccess.removeFile (m := StateM σ) (cache.entryPath outputName) s).2)
  /-- Every other lookup there leaves the store. -/
  get_keeps {σ : Type} [FileAccess (StateM σ)] [SteadyStore σ] {s : σ} (hash : String) :
    ¬cache.HoldsCorrupt outputName s →
      (cache.get (m := StateM σ) outputName hash s).2 = s
  /-- In a tree a corrupt file is the only thing a lookup changes. -/
  changed_iff (hash : String) (t : FileTree) :
    (cache.get (m := StateM FileTree) outputName hash t).2 ≠ t ↔ cache.HoldsCorrupt outputName t
  /-- It is taken away, and nothing is found. -/
  discards {t : FileTree} (hash : String) : cache.HoldsCorrupt outputName t →
    (cache.get (m := StateM FileTree) outputName hash t).1 = none ∧
      (cache.get (m := StateM FileTree) outputName hash t).2.node?
        (t.place (cache.entryPath outputName)) = none

theorem isConfined (cache : Cache) (outputName : String) : cache.IsConfined outputName := by
  constructor
  case file => exact cache.entryPath_eq_child outputName
  case get_worksOn => exact fun hash => cache.worksOn_get outputName hash
  case set_worksOn => exact fun hash code => cache.worksOn_set outputName hash code
  case get_changes =>
    exact fun hash t => FileTree.changesOnly_of_worksOn (cache.worksOn_get outputName hash) t
  case set_changes =>
    exact fun hash code t =>
      FileTree.changesOnly_of_worksOn (cache.worksOn_set outputName hash code) t
  case get_corrupt => exact fun hash h => run_get_of_holdsCorrupt h hash
  case get_keeps => exact fun hash h => run_get_of_not_holdsCorrupt h hash
  case changed_iff => exact cache.run_get_ne_iff outputName
  case discards =>
    intro t hash h
    rw [run_get_of_holdsCorrupt_tree h]
    exact ⟨rfl, t.node?_withoutFile_self (place_entryPath_ne_nil cache outputName t)⟩

/-! ## Names next to each other -/

/-- What is found in `u`, after the module was stored, against what was found in `t`, before. -/
structure AnswersAfter (cache : Cache) (outputName hash code : String) (t u : FileTree)
    (name' hash' : String) : Prop where
  found : safeName name' = safeName outputName → hash' = hash →
    cache.get (m := StateM FileTree) name' hash' u = (some code, u)
  stale : safeName name' = safeName outputName → hash' ≠ hash →
    cache.get (m := StateM FileTree) name' hash' u = (none, u)
  /-- Another file is looked up with the same answer, -/
  answer : safeName name' ≠ safeName outputName →
    (cache.get (m := StateM FileTree) name' hash' u).1 =
      (cache.get (m := StateM FileTree) name' hash' t).1
  /-- and taken away if it would have been before. -/
  corrupt : safeName name' ≠ safeName outputName →
    (cache.HoldsCorrupt name' u ↔ cache.HoldsCorrupt name' t)
  changes : safeName name' ≠ safeName outputName →
    FileTree.ChangesOnly (t.place (cache.entryPath outputName))
      (cache.get (m := StateM FileTree) name' hash' t).2
      (cache.get (m := StateM FileTree) name' hash' u).2

section Stored

variable {cache : Cache} {outputName hash code : String} {t : FileTree}

theorem textIn_of_stores (h : cache.Stores outputName hash code t) {name' : String}
    (hname : safeName name' ≠ safeName outputName) :
    textIn (cache.set (m := StateM FileTree) outputName hash code t).2 (cache.entryPath name') =
      textIn t (cache.entryPath name') :=
  textIn_congr (FileTree.readBytes_of_writeBytes_sibling (writeBytes_of_stores h)
    (place_entryPath_ne hname cache t))

theorem changesOnly_get {u : FileTree} {name' hash' : String} {place : Place}
    (h : FileTree.ChangesOnly place t u)
    (hread : textIn u (cache.entryPath name') = textIn t (cache.entryPath name')) :
    (cache.get (m := StateM FileTree) name' hash' u).1 =
        (cache.get (m := StateM FileTree) name' hash' t).1 ∧
      FileTree.ChangesOnly place (cache.get (m := StateM FileTree) name' hash' t).2
        (cache.get (m := StateM FileTree) name' hash' u).2 := by
  -- a lookup is decided by the text it reads
  cases htext : textIn t (cache.entryPath name') with
  | error fault =>
    rw [run_get_of_unreadable htext, run_get_of_unreadable (hread.trans htext)]
    exact ⟨rfl, h⟩
  | ok text =>
    cases hparse : CacheEntry.parse text with
    | ok entry =>
      rw [run_get_of_entry htext hparse, run_get_of_entry (hread.trans htext) hparse]
      exact ⟨rfl, h⟩
    | error fault =>
      rw [run_get_of_holdsCorrupt_tree ⟨text, fault, htext, hparse⟩,
        run_get_of_holdsCorrupt_tree ⟨text, fault, hread.trans htext, hparse⟩]
      exact ⟨rfl, h.withoutFile (place_entryPath_ne_nil cache name' t)⟩

theorem answersAfter_of_stores (h : cache.Stores outputName hash code t) (name' hash' : String) :
    cache.AnswersAfter outputName hash code t
      (cache.set (m := StateM FileTree) outputName hash code t).2 name' hash' := by
  have hchanges := (cache.isConfined outputName).set_changes hash code t
  constructor
  case found =>
    intro hname hhash
    rw [run_get_of_stores h hname, if_pos hhash.symm]
  case stale =>
    intro hname hhash
    rw [run_get_of_stores h hname, if_neg (Ne.symm hhash)]
  case answer => exact fun hname => (changesOnly_get hchanges (textIn_of_stores h hname)).1
  case corrupt =>
    intro hname
    rw [HoldsCorrupt, HoldsCorrupt, textIn_of_stores h hname]
  case changes => exact fun hname => (changesOnly_get hchanges (textIn_of_stores h hname)).2

end Stored

theorem isConfined_and_answersAfter (cache : Cache) (outputName hash code : String) (t : FileTree) :
    (∀ name, cache.IsConfined name) ∧
      (cache.Stores outputName hash code t → ∀ name' hash',
        cache.AnswersAfter outputName hash code t
          (cache.set (m := StateM FileTree) outputName hash code t).2 name' hash') :=
  ⟨cache.isConfined, answersAfter_of_stores⟩

/-- The file of `a/b` and `a:b` is out of date, and that of `../x` is no entry. -/
def crowdedTree : FileTree :=
  ⟨.ofList [(["cache"], .directory),
    (["cache", "a_b.json"], .file staleEntry.toValue.compact.toByteArray),
    (["cache", ".._x.json"], .file "not json".toByteArray),
    (["x.json"], .file "outside".toByteArray)], []⟩

theorem answersAfter_crowdedTree :
    Stores ⟨sampleDirectory⟩ "a/b" "hash" "it's" crowdedTree ∧
      HoldsCorrupt ⟨sampleDirectory⟩ "../x" crowdedTree ∧
      safeName "a:b" = safeName "a/b" ∧ safeName "../x" ≠ safeName "a/b" ∧
      ∀ name' hash', AnswersAfter ⟨sampleDirectory⟩ "a/b" "hash" "it's" crowdedTree
        (set (m := StateM FileTree) ⟨sampleDirectory⟩ "a/b" "hash" "it's" crowdedTree).2
        name' hash' := by
  have hstores : Stores ⟨sampleDirectory⟩ "a/b" "hash" "it's" crowdedTree := by decide +kernel
  have hcorrupt : HoldsCorrupt ⟨sampleDirectory⟩ "../x" crowdedTree :=
    ⟨"not json", .expectedIdent, by decide +kernel, by decide +kernel⟩
  exact ⟨hstores, hcorrupt, by decide, by decide,
    (isConfined_and_answersAfter ⟨sampleDirectory⟩ "a/b" "hash" "it's" crowdedTree).2 hstores⟩

end Cache
end AmpComponents
