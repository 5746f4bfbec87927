/-!
# Errors

The failures that the library reports. A `Complaint` says what went wrong, and belongs to a family;
families form a small tree, in which a host class that is not found is a failure of reflection and
every family is a kind of the general one. An `Error` is a complaint and possibly the error that
caused it; `Error.text` writes the whole chain.
-/

namespace ScriptScope

/-- The area in which something went wrong. -/
inductive ErrorFamily where
  | general | configuration | parsing | reflection | hostClass | moduleIndex
  deriving DecidableEq, Repr

namespace ErrorFamily

/-- A family and all wider ones, nearest first. -/
def ancestry : ErrorFamily → List ErrorFamily
  | general => [general]
  | hostClass => [hostClass, reflection, general]
  | family => [family, general]

end ErrorFamily

/-- What went wrong. -/
inductive Complaint where
  /-- A failure of no particular area. -/
  | general (message : String)
  /-- A setting or a configured file that cannot be used. -/
  | configuration (message : String)
  /-- A script that cannot be parsed, with the 1-based line if one is known. -/
  | parsing (message : String) (line : Option Int)
  /-- A failure of host reflection. -/
  | reflection (message : String)
  /-- A host class that reflection does not know. -/
  | hostClassNotFound (className : String)
  /-- A module file that cannot be used. -/
  | moduleIndex (message : String) (path : Option String)
  deriving DecidableEq, Repr

namespace Complaint

/-- The area of a complaint. -/
def family : Complaint → ErrorFamily
  | general _ => .general
  | configuration _ => .configuration
  | parsing _ _ => .parsing
  | reflection _ => .reflection
  | hostClassNotFound _ => .hostClass
  | moduleIndex _ _ => .moduleIndex

/-- The wording of a complaint. -/
def message : Complaint → String
  | general message | configuration message | parsing message _ | reflection message
  | moduleIndex message _ => message
  | hostClassNotFound className => "Host class not found: " ++ className

end Complaint

/-- A failure: a complaint of the library with its cause, or a failure of the environment, which is
known by its message alone. -/
inductive Error where
  | foreign (message : String)
  | raised (complaint : Complaint) (cause : Option Error)
  deriving Repr

namespace Error

instance : Inhabited Error := ⟨foreign ""⟩

/-- The text of an error, followed by that of its cause. -/
def text : Error → String
  | foreign message => message
  | raised complaint none => complaint.message
  | raised complaint (some cause) => complaint.message ++ " (caused by: " ++ cause.text ++ ")"

end Error

end ScriptScope
