import ScriptScope.Context
import ScriptScope.Disk.Disk
import ScriptScope.Host.Catalog
import ScriptScope.Module.Index

/-!
# Sources of knowledge from files

Host catalogs and builtin symbols are read from files, modules are found on the disk. A file that
cannot be used is reported with its path; a file that is no text at all is a failure of its own.
-/

namespace ScriptScope

/-- Why a configured file cannot be used. -/
inductive LoadFailure where
  /-- A complaint; the issues are those of a file whose content was checked. -/
  | refused (complaint : Complaint) (issues : Option (List Issue))
  /-- The file is not text. -/
  | notText
  deriving Repr

namespace Host

/-- Reads a catalog file. -/
def Catalog.load (disk : Disk) (path : Path) : Except LoadFailure Catalog :=
  let complaint := Complaint.configuration ("Invalid reflection catalog: " ++ path.text)
  match disk.readStrict path with
  | .error _ => .error (.refused complaint none)
  | .ok none => .error .notText
  | .ok (some text) =>
    match Catalog.ofText text with
    | .ok catalog => .ok catalog
    | .error issues => .error (.refused complaint (some issues))

/-- Reflection on the classes of a catalog. -/
def Catalog.source (catalog : Catalog) (className : String) :
    Except SourceFailure (List Member) :=
  match catalog.members? className with
  | some members => .ok members
  | none => .error .unknown

end Host

namespace Builtin

/-- The builtin symbols that a text lists, one a line, without blank lines and comments. -/
def ofText (text : String) : List String :=
  (Text.lines text).filterMap (fun line =>
    let symbol := Text.trim line
    if symbol = "" ∨ Text.startsWith symbol "#" then none else some symbol)

/-- Reads a file of builtin symbols. -/
def load (disk : Disk) (path : Path) : Except LoadFailure (List String) :=
  match disk.readStrict path with
  | .error _ => .error (.refused (.configuration ("Cannot read builtin entries: " ++ path.text)) none)
  | .ok none => .error .notText
  | .ok (some text) => .ok (ofText text)

end Builtin

namespace Module

/-- The members of modules below search roots, as long as the disk does not change. -/
def source (disk : Disk) (roots : List Path) (modulePath : String) :
    Except SourceFailure (Option (List String)) :=
  match ((Index.ofRoots roots false 1).members disk modulePath).1 with
  | .ok members => .ok members
  | .error e => .error (.failed e.text)

end Module

end ScriptScope
