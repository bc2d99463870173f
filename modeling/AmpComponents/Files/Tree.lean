/-
A tree of files as a value.

The tree maps the place of each file and directory to what is there.  A place is the list of
names from the root, without `.` and `..`; the root is always a directory.  A path is followed
name by name, and the fault that stops it is the one of the first name that cannot be
followed.  Permissions are no part of the tree: it refuses nothing that its nodes allow.
-/
import AmpComponents.Files.Access
import AmpComponents.OrderedMap

namespace AmpComponents

inductive FileNode where
  | file (bytes : ByteArray)
  | directory

abbrev Place := List String

structure FileTree where
  nodes : OrderedMap Place FileNode
  /-- The current directory. -/
  current : Place

namespace FileTree

/-- The longest name of a file, in bytes. -/
def maxNameSize : Nat := 255

/-- The longest path, in bytes. -/
def maxPathSize : Nat := 4095

def node? (t : FileTree) (place : Place) : Option FileNode :=
  if place = [] then some .directory else t.nodes.find? place

/-- The place of a name in a directory; there may be nothing at it. -/
def step (t : FileTree) (place : Place) (name : String) : Except FileFault Place :=
  match t.node? place with
  | none => .error .notFound
  | some (.file _) => .error .notDirectory
  | some .directory =>
    if name = "." then .ok place
    else if name = ".." then .ok place.dropLast
    else if maxNameSize < name.utf8ByteSize then .error .nameTooLong
    else .ok (place ++ [name])

/-- Follows names, each of which has to be there. -/
def walk (t : FileTree) : Place → List String → Except FileFault Place
  | place, [] => .ok place
  | place, name :: rest => do
    let next ← t.step place name
    if (t.node? next).isSome then t.walk next rest else .error .notFound

/-- What is wrong with a path before it is followed. -/
def checkPath (p : Path) : Except FileFault Unit :=
  if p.parts.any (·.toList.contains '\x00') then .error .nulInName
  else if p.isEmpty then .error .notFound
  else if maxPathSize < p.text.utf8ByteSize then .error .nameTooLong
  else .ok ()

def origin (t : FileTree) (p : Path) : Place := if p.rooted then [] else t.current

/-- The place of something that is there. -/
def locate (t : FileTree) (p : Path) : Except FileFault (Place × FileNode) := do
  checkPath p
  let place ← t.walk (t.origin p) p.parts
  match t.node? place with
  | none => .error .notFound
  | some (.file bytes) => if p.slashed then .error .notDirectory else .ok (place, .file bytes)
  | some .directory => .ok (place, .directory)

/-- The directory in which the last name of a path stands. -/
def outer (t : FileTree) (p : Path) : Except FileFault Place := do
  let place ← t.walk (t.origin p) p.parts.dropLast
  match t.node? place with
  | some .directory => .ok place
  | _ => .error .notDirectory

/-- Whether a name stands for a directory by itself. -/
def isDots (name : String) : Bool := name = "." || name = ".."

/-! ## The operations -/

def readBytes (t : FileTree) (p : Path) : Except FileFault ByteArray := do
  match ← t.locate p with
  | (_, .file bytes) => .ok bytes
  | (_, .directory) => .error .isDirectory

/-- The place at which a file of this path is made or replaced. -/
def writePlace (t : FileTree) (p : Path) : Except FileFault Place := do
  checkPath p
  match p.parts.getLast? with
  | none => .error .isDirectory
  | some name => do
    let outer ← t.outer p
    if isDots name || p.slashed then .error .isDirectory
    else
      let place ← t.step outer name
      match t.node? place with
      | some .directory => .error .isDirectory
      | _ => .ok place

def writeBytes (t : FileTree) (p : Path) (bytes : ByteArray) : Except FileFault FileTree := do
  let place ← t.writePlace p
  return { t with nodes := t.nodes.insert place (.file bytes) }

def makeDirectory (t : FileTree) (p : Path) : Except FileFault FileTree := do
  checkPath p
  match p.parts.getLast? with
  | none => .error .alreadyExists
  | some name => do
    let outer ← t.outer p
    if isDots name then .error .alreadyExists
    else
      let place ← t.step outer name
      match t.node? place with
      | some _ => .error .alreadyExists
      | none => .ok { t with nodes := t.nodes.insert place .directory }

def isDirectory (t : FileTree) (p : Path) : Bool :=
  match t.locate p with
  | .ok (_, .directory) => true
  | _ => false

def removeFile (t : FileTree) (p : Path) : Except FileFault FileTree := do
  match ← t.locate p with
  | (place, .file _) => .ok { t with nodes := t.nodes.erase place }
  | (_, .directory) => .error .isDirectory

/-- What lies below the current directory, by the names that lead to it. -/
def listing (t : FileTree) : List (List String × FileNode) :=
  t.nodes.entries.filterMap fun (place, node) =>
    if t.current <+: place ∧ place ≠ t.current then some (place.drop t.current.length, node)
    else none

/-! ## Access -/

/-- An operation that changes the tree when it succeeds. -/
def update (f : FileTree → Except FileFault FileTree) : StateM FileTree (Except FileFault Unit) :=
  fun t =>
    match f t with
    | .ok t => (.ok (), t)
    | .error fault => (.error fault, t)

instance : FileAccess (StateM FileTree) where
  readBytes p := fun t => (t.readBytes p, t)
  writeBytes p bytes := update (·.writeBytes p bytes)
  makeDirectory p := update (·.makeDirectory p)
  isDirectory p := fun t => (t.isDirectory p, t)
  removeFile p := update (·.removeFile p)

/-- A tree with one directory, which is the current one. -/
def within (place : Place) : FileTree :=
  ⟨.ofList ((List.range place.length).map fun i => (place.take (i + 1), .directory)), place⟩

end FileTree
end AmpComponents
