import ScriptScope.Disk.Disk
import ScriptScope.Error
import ScriptScope.Module.Names
import ScriptScope.Syntax.Script
import ScriptScope.Text.Case
import ScriptScope.Text.Identifier

/-!
# The index of modules

A module `a.b.c` is looked for below each search root in turn: as a package, which is a directory
with an initialisation file, and then as a file. The members of a module are the names that it
binds; a package has its submodules besides.

The index remembers what it found for the names it was asked for last, also that there was nothing.
It can watch the directories of the modules that it found, and forgets everything when a module file
in one of them changes.
-/

namespace ScriptScope.Module

/-- A module that was found. -/
structure Loaded where
  name : String
  path : Path
  members : List String
  deriving DecidableEq, Repr

/-- The name of the initialisation file of a package. -/
def initFile : String := "__init__.py"

/-- The suffix of module files. -/
def fileSuffix : String := ".py"

/-- Whether a module is a package. -/
def Loaded.isPackage (m : Loaded) : Bool :=
  m.path.name == initFile

/-- Whether a text is a module path: names separated by dots. -/
def isPath (modulePath : String) : Bool :=
  (Text.split '.' modulePath).all Text.isIdentifier

/-! ### Looking a module up on the disk -/

/-- The complaint about a module file that cannot be read. -/
def unreadable (path : Path) (failure : ReadFailure) : Error :=
  .raised (.moduleIndex ("Cannot read module file " ++ path.text) (some path.text))
    (some (.foreign failure.message))

/-- The names that a script text binds. -/
def namesOfText (source : String) : List String :=
  (Stmt.topLevelNames (Stmt.ofModule (Syntax.Statement.ofText source))).getD []

/-- The names that a module file binds. -/
def namesOfFile (disk : Disk) (path : Path) : Except Error (List String) :=
  match disk.readText path with
  | .ok source => .ok (namesOfText source)
  | .error failure => .error (unreadable path failure)

/-- The submodules in a directory in ascending order of their files. -/
def submodules (disk : Disk) (directory : Path) : List String :=
  (disk.list directory).filterMap (fun name =>
    let path := directory.child name
    if disk.isFile path then
      if path.suffix = fileSuffix ∧ path.stem ≠ "__init__" then some path.stem else none
    else if disk.isDirectory path && disk.isFile (path.child initFile) then some name
    else none)

/-- Looks for a module below one root. -/
def loadBelow (disk : Disk) (modulePath : String) (root : Path) : Except Error (Option Loaded) := do
  let base : Path := { root with parts := root.parts ++ Text.split '.' modulePath }
  let package := base.child initFile
  let file := base.parent.child (base.name ++ fileSuffix)
  if disk.isFile package then
    let names ← namesOfFile disk package
    return some ⟨modulePath, package, firstBy id (names ++ submodules disk base)⟩
  else if disk.isFile file then
    let names ← namesOfFile disk file
    return some ⟨modulePath, file, names⟩
  else return none

/-- Looks for a module below each root in turn. -/
def load (disk : Disk) (modulePath : String) : List Path → Except Error (Option Loaded)
  | [] => .ok none
  | root :: rest =>
    match loadBelow disk modulePath root with
    | .ok none => load disk modulePath rest
    | found => found

/-! ### Remembering -/

/-- A table of at most so many results, oldest use first. -/
abbrev Memory := List (String × Option Loaded)

namespace Memory

/-- The result for a name. -/
def get? (memory : Memory) (name : String) : Option (Option Loaded) :=
  (memory.find? (fun e => e.1 == name)).map (·.2)

/-- Makes a name the one that was used last. -/
def touch (memory : Memory) (name : String) : Memory :=
  memory.filter (fun e => e.1 != name) ++ memory.filter (fun e => e.1 == name)

/-- Adds a result, and drops the oldest beyond a number of them. -/
def insert (memory : Memory) (limit : Nat) (name : String) (found : Option Loaded) : Memory :=
  let grown := memory ++ [(name, found)]
  grown.drop (grown.length - limit)

end Memory

/-- The state of an index. -/
structure Index where
  roots : List Path
  /-- How many results are remembered. -/
  limit : Nat
  memory : Memory := []
  /-- The watched directories; absent if the index does not watch. -/
  watched : Option (List Path) := none

namespace Index

/-- An index over search roots. -/
def ofRoots (roots : List Path) (watch : Bool) (limit : Nat) : Index :=
  { roots, limit, watched := if watch then some [] else none }

/-- Forgets all results. -/
def clear (ix : Index) : Index := { ix with memory := [] }

/-- Adds a search root, and forgets all results. -/
def addRoot (ix : Index) (root : Path) : Index :=
  { ix with roots := if root ∈ ix.roots then ix.roots else ix.roots ++ [root], memory := [] }

/-- A directory without double dots. -/
def resolved (directory : Path) : Path :=
  match Disk.locate directory with
  | some ("/" :: parts) => { rooted := true, parts }
  | some parts => { parts }
  | none => directory

/-- Watches a directory, if the index watches and the disk allows it. -/
def watch (ix : Index) (disk : Disk) (directory : Path) : Index :=
  match ix.watched with
  | none => ix
  | some known =>
    let directory := resolved directory
    if directory ∈ known ∨ !disk.watchable then ix
    else { ix with watched := some (known ++ [directory]) }

/-- Watches the directory of a module that was found. -/
def watchFound (ix : Index) (disk : Disk) : Option Loaded → Index
  | none => ix
  | some m => ix.watch disk m.path.parent

/-- Looks a module up. A failure to read leaves the index as it was. -/
def lookup (ix : Index) (disk : Disk) (modulePath : String) :
    Except Error (Option Loaded) × Index :=
  if isPath modulePath then
    match ix.memory.get? modulePath with
    | some found => (.ok found, { ix with memory := ix.memory.touch modulePath })
    | none =>
      match load disk modulePath ix.roots with
      | .error e => (.error e, ix)
      | .ok found =>
        (.ok found,
          { ix with memory := ix.memory.insert ix.limit modulePath found }.watchFound disk found)
  else (.ok none, ix)

/-- The members of a module. -/
def members (ix : Index) (disk : Disk) (modulePath : String) :
    Except Error (Option (List String)) × Index :=
  let (result, ix) := ix.lookup disk modulePath
  (result.map (fun found => found.map Loaded.members), ix)

/-- The modules that are remembered as found, oldest use first. -/
def remembered (ix : Index) : List String :=
  ix.memory.filterMap (fun e => if e.2.isSome then some e.1 else none)

/-- The watched directories. -/
def watchedDirectories (ix : Index) : List Path :=
  ix.watched.getD []

/-- Stops watching all directories. -/
def stopWatching (ix : Index) : Index :=
  { ix with watched := ix.watched.map (fun _ => []) }

end Index

/-! ### Changes -/

/-- What happened to a file or directory. -/
inductive ChangeKind where
  | created | modified | deleted
  /-- Something that leaves the content as it is. -/
  | other
  deriving DecidableEq, Repr

/-- A change on the disk. -/
structure Change where
  kind : ChangeKind
  path : Path
  isDirectory : Bool
  deriving DecidableEq, Repr

namespace Change

/-- Whether a change concerns a module file. -/
def concernsModule (change : Change) : Bool :=
  change.kind != .other && !change.isDirectory && Text.lower change.path.suffix == fileSuffix

end Change

/-- Takes note of a change. -/
def Index.notice (ix : Index) (change : Change) : Index :=
  if change.concernsModule then ix.clear else ix

end ScriptScope.Module
