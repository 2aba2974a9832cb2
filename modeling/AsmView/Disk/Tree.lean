/-
# A disk in memory

Files and directories by the names that lead to them from the root.  Paths are followed
name by name, as the kernel does it: every name but the last must lead to a directory.
Steps can be told to fail.
-/
import AsmView.Disk
import AsmView.Text.Lines

namespace AsmView

open Text

inductive Node where
  | file (bytes : ByteArray)
  | directory

/-- The steps of writing a file that can be told to fail. -/
inductive WriteStep where
  | create
  | write
  | sync
  | rename
deriving DecidableEq, Repr

/-- A place: the names that lead to it from the root. -/
abbrev Place := List String

/-- A tree of files and directories.  The root is always a directory. -/
structure Tree where
  nodes : List (Place × Node) := []
  /-- The directory that other paths start from. -/
  here : Place := []
  /-- The time of the next stamp: nanoseconds, which have 19 digits. -/
  clock : Nat := 1_000_000_000_000_000_000
  /-- The steps that fail, and why. -/
  trouble : List (WriteStep × IoFault) := []

namespace Tree

def node? (t : Tree) (p : Place) : Option Node :=
  if p.isEmpty then some .directory else t.nodes.lookup p

/-- A tree of some files, by their paths from the directory that paths start from. -/
def ofFiles (here : Place) (files : List (String × ByteArray)) : Tree where
  nodes := (here, .directory) :: files.map fun (path, bytes) =>
    (here ++ (splitAt '/' path.toList).map String.ofList, .file bytes)
  here

def erase (t : Tree) (p : Place) : Tree :=
  { t with nodes := t.nodes.filter (·.1 ≠ p) }

def insert (t : Tree) (p : Place) (n : Node) : Tree :=
  { t with nodes := (p, n) :: (t.erase p).nodes }

def children (t : Tree) (p : Place) : List (String × Node) :=
  t.nodes.filterMap fun (q, n) =>
    match q.getLast? with
    | some name => if q.dropLast = p then some (name, n) else none
    | none => none

/-- The place must be a directory. -/
def directory (t : Tree) (p : Place) : Except IoFault Place :=
  match t.node? p with
  | some .directory => .ok p
  | some (.file _) => .error .notDirectory
  | none => .error .notFound

/-- The most bytes that a name may have. -/
def nameLimit : Nat := 255

/-- The most bytes that a path may have. -/
def pathLimit : Nat := 4095

def inside (dir : Place) (name : String) : Except IoFault Place :=
  if nameLimit < name.utf8ByteSize then .error .nameTooLong else .ok (dir ++ [name])

/-- Follows names from a place.  The names must lead through directories. -/
def follow (t : Tree) : Place → List String → Except IoFault Place
  | p, [] => .ok p
  | p, name :: rest => do
    let p ← t.directory p
    if name = "." then t.follow p rest
    else if name = ".." then t.follow p.dropLast rest
    else t.follow (← inside p name) rest

/-- A path taken apart: where it starts, its names, and whether a slash stands behind the
last. -/
structure Course where
  start : Place
  names : List String
  slashed : Bool

/-- Takes a path apart; the empty path leads nowhere. -/
def course (t : Tree) (path : String) : Except IoFault Course :=
  let cs := path.toList
  let pieces := splitAt '/' cs
  if cs.isEmpty then .error .notFound
  else if cs.contains '\x00' then .error .zeroInPath
  else if pathLimit < path.utf8ByteSize then .error .nameTooLong
  else .ok {
    start := if cs.head? = some '/' then [] else t.here
    names := (pieces.filter (!·.isEmpty)).map String.ofList
    slashed := (pieces.getLast?.map (·.isEmpty)).getD false }

/-- The place a path leads to. -/
def place (t : Tree) (path : String) : Except IoFault Place := do
  let c ← t.course path
  let p ← t.follow c.start c.names
  if c.slashed then t.directory p else .ok p

/-- The directory a path leads into, and the last name unless that is a dot or two.  A
path without a name leads to the root. -/
def site (t : Tree) (path : String) : Except IoFault (Place × Option String × Bool) := do
  let c ← t.course path
  let dir ← (t.follow c.start c.names.dropLast).bind t.directory
  let name? := c.names.getLast?.filter fun n => n ≠ "." && n ≠ ".."
  .ok (dir, name?, c.slashed)

def read (t : Tree) (path : String) : Except IoFault ByteArray := do
  match t.node? (← t.place path) with
  | some (.file bytes) => .ok bytes
  | some .directory => .error .isDirectory
  | none => .error .notFound

/-- The place where a path lets a file be created. -/
def filePlace (t : Tree) (path : String) : Except IoFault Place := do
  match ← t.site path with
  | (dir, some name, false) => do
    let p ← inside dir name
    match t.node? p with
    | some .directory => .error .isDirectory
    | _ => .ok p
  | _ => .error .isDirectory

/-- The tree with an empty file where a path leads. -/
def create (t : Tree) (path : String) : Except IoFault Tree := do
  .ok (t.insert (← t.filePlace path) (.file ByteArray.empty))

/-- The tree with an empty file where nothing was. -/
def createNew (t : Tree) (path : String) : Except IoFault Tree := do
  let p ← t.filePlace path
  if (t.node? p).isSome then .error .alreadyExists
  else .ok (t.insert p (.file ByteArray.empty))

def write (t : Tree) (path text : String) : Except IoFault Tree := do
  .ok (t.insert (← t.filePlace path) (.file text.toUTF8))

def rename (t : Tree) (path target : String) : Except IoFault Tree := do
  let from_ ← t.place path
  match ← t.site target with
  | (_, none, _) => .error .busy
  | (dir, some name, slashed) => do
    let some n := t.node? from_ | .error .notFound
    let to_ ← inside dir name
    if slashed then .error .notDirectory
    else match t.node? to_ with
      | some .directory => .error .isDirectory
      | _ => .ok ((t.erase from_).insert to_ n)

def remove (t : Tree) (path : String) : Except IoFault Tree := do
  let p ← t.place path
  match t.node? p with
  | some (.file _) => .ok (t.erase p)
  | some .directory => .error .isDirectory
  | none => .error .notFound

def makeDirectory (t : Tree) (path : String) : Except IoFault Tree := do
  match ← t.site path with
  | (dir, some name, _) => do
    let p ← inside dir name
    if (t.node? p).isSome then .error .alreadyExists else .ok (t.insert p .directory)
  | _ => .error .alreadyExists

def isDirectory (t : Tree) (path : String) : Bool :=
  ((t.place path).bind t.directory).isOk

def ask {α : Type} (f : Tree → Except IoFault α) : ExceptT IoFault (StateM Tree) α := do
  f (← get)

/-- A change of the tree; it stays as it was when the change fails. -/
def change (f : Tree → Except IoFault Tree) : ExceptT IoFault (StateM Tree) Unit := do
  set (← ask f)

/-- A step that fails when it was told to. -/
def attempt (step : WriteStep) : ExceptT IoFault (StateM Tree) Unit :=
  ask fun t =>
    match t.trouble.lookup step with
    | some f => .error f
    | none => .ok ()

instance : Disk (StateM Tree) where
  read path := ask (·.read path)
  create path := do attempt .create; change (·.create path)
  createNew path := do attempt .create; change (·.createNew path)
  write path text := do attempt .write; change (·.write path text)
  sync _ := attempt .sync
  rename path target := do attempt .rename; change (·.rename path target)
  remove path := change (·.remove path)
  makeDirectory path := change (·.makeDirectory path)
  isDirectory path := do pure ((← get).isDirectory path)
  stamp := modifyGet fun t => (t.clock, { t with clock := t.clock + 1 })

end Tree

end AsmView
