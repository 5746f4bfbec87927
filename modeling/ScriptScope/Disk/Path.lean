import ScriptScope.Text.Parts

/-!
# Paths

A path is a list of names, from the root or from the working directory. Empty names and single dots
are dropped when a path is read; double dots stay.
-/

namespace ScriptScope

/-- A path of a file or a directory. -/
structure Path where
  rooted : Bool := false
  parts : List String := []
  deriving DecidableEq, Repr

namespace Path

instance : Inhabited Path := ⟨{}⟩

/-- Reads a path. -/
def ofText (text : String) : Path :=
  { rooted := text.toList.head? == some '/'
    parts := (Text.split '/' text).filter (fun part => part != "" && part != ".") }

/-- Writes a path. -/
def text (p : Path) : String :=
  let joined := "/".intercalate p.parts
  if p.rooted then "/" ++ joined else if p.parts.isEmpty then "." else joined

/-- A name inside a directory. -/
def child (p : Path) (name : String) : Path :=
  { p with parts := p.parts ++ [name] }

/-- The directory that a path is in. -/
def parent (p : Path) : Path :=
  { p with parts := p.parts.dropLast }

/-- The last name of a path. -/
def name (p : Path) : String :=
  p.parts.getLast?.getD ""

/-- Splits a name at its last dot, which counts only between other characters. -/
def splitName (name : String) : String × String :=
  let (stem, ending) := Text.splitLast '.' name
  if stem = "" ∨ ending = "" then (name, "") else (stem, "." ++ ending)

/-- The last name without its suffix. -/
def stem (p : Path) : String := (splitName p.name).1

/-- The suffix of the last name, with its dot. -/
def suffix (p : Path) : String := (splitName p.name).2

end Path

end ScriptScope
