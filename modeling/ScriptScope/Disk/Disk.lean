import ScriptScope.Disk.Path
import ScriptScope.Text.Blank
import ScriptScope.Text.Utf8

/-!
# Files

A `Disk` is what can be seen of a file system below the working directory: files with their bytes,
and directories. A file can be closed to reading. Double dots in a path go one directory up.
-/

namespace ScriptScope

/-- What stands at a path. -/
inductive Content where
  | file (bytes : List UInt8)
  | directory
  deriving DecidableEq, Repr

/-- Why a file cannot be read. -/
inductive ReadFailure where
  | absent
  | isDirectory
  | denied
  deriving DecidableEq, Repr

namespace ReadFailure

/-- The wording of a failure to read. -/
def message : ReadFailure → String
  | absent => "No such file or directory"
  | isDirectory => "Is a directory"
  | denied => "permission denied"

end ReadFailure

/-- Files and directories by their names from the working directory, and what else can be told about
them. -/
structure Disk where
  entries : List (List String × Content) := []
  /-- Files that refuse to be read. -/
  closed : List (List String) := []
  /-- Whether directories can be watched. -/
  watchable : Bool := true

namespace Disk

/-- The names that lead to a path, with double dots taken back; absent if it leaves the working
directory. A path from the root starts with a name that no other path has. -/
def locate (p : Path) : Option (List String) :=
  let step (names : List String) (part : String) : Option (List String) :=
    if part = ".." then (if names.isEmpty && !p.rooted then none else some names.dropLast)
    else some (names ++ [part])
  (p.parts.foldlM step []).map (fun names => if p.rooted then "/" :: names else names)

/-- What stands at some names; the working directory is always there. -/
def at? (d : Disk) (names : List String) : Option Content :=
  if names.isEmpty then some .directory
  else (d.entries.find? (fun e => e.1 == names)).map (·.2)

/-- What stands at a path. -/
def get? (d : Disk) (p : Path) : Option Content :=
  (locate p).bind d.at?

/-- Whether a path is a file. -/
def isFile (d : Disk) (p : Path) : Bool :=
  match d.get? p with
  | some (.file _) => true
  | _ => false

/-- Whether a path is a directory. -/
def isDirectory (d : Disk) (p : Path) : Bool :=
  d.get? p == some .directory

/-- The names in a directory in ascending order. -/
def list (d : Disk) (p : Path) : List String :=
  match locate p with
  | none => []
  | some names =>
    let inside := d.entries.filterMap (fun e =>
      if e.1.dropLast == names && e.1.length == names.length + 1 then e.1.getLast? else none)
    inside.mergeSort (fun a b => decide (a ≤ b))

/-- The bytes of a file. -/
def read (d : Disk) (p : Path) : Except ReadFailure (List UInt8) :=
  match locate p with
  | none => .error .absent
  | some names =>
    if d.closed.contains names then .error .denied
    else match d.at? names with
      | some (.file bytes) => .ok bytes
      | some .directory => .error .isDirectory
      | none => .error .absent

/-- The text of a file with line ends unified; what is no text shows as replacement characters. -/
def readText (d : Disk) (p : Path) : Except ReadFailure String :=
  (d.read p).map (fun bytes => String.ofList (Text.unifyNewlines (Text.Utf8.lenient bytes)))

/-- The text of a file with line ends unified; absent inside if it is no text. -/
def readStrict (d : Disk) (p : Path) : Except ReadFailure (Option String) :=
  (d.read p).map (fun bytes =>
    (Text.Utf8.strict? bytes).map (fun cs => String.ofList (Text.unifyNewlines cs)))

/-- Puts something at some names, in place of what was there. -/
def put (d : Disk) (names : List String) (content : Content) : Disk :=
  { d with entries := d.entries.filter (fun e => e.1 != names) ++ [(names, content)] }

/-- Makes the directories that lead to some names. -/
def makeParents (d : Disk) (names : List String) : Disk :=
  ((List.range names.length).map (names.take ·)).foldl (fun d dir =>
    if (d.at? dir).isSome then d else d.put dir .directory) d

/-- Writes a file, making the directories that lead to it. -/
def write (d : Disk) (p : Path) (bytes : List UInt8) : Disk :=
  match locate p with
  | none => d
  | some names => (d.makeParents names).put names (.file bytes)

/-- Makes a directory and those that lead to it. -/
def makeDirectory (d : Disk) (p : Path) : Disk :=
  match locate p with
  | none => d
  | some names =>
    let d := d.makeParents names
    if (d.at? names).isSome then d else d.put names .directory

/-- Removes a file, or a directory with all that is in it. -/
def delete (d : Disk) (p : Path) : Disk :=
  match locate p with
  | none => d
  | some names => { d with entries := d.entries.filter (fun e => !names.isPrefixOf e.1) }

/-- Closes a file to reading. -/
def close (d : Disk) (p : Path) : Disk :=
  match locate p with
  | none => d
  | some names => { d with closed := names :: d.closed }

/-- Opens a file to reading again. -/
def reopen (d : Disk) (p : Path) : Disk :=
  match locate p with
  | none => d
  | some names => { d with closed := d.closed.filter (· != names) }

end Disk

end ScriptScope
