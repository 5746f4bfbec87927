import ScriptScope.Data.FirstBy
import ScriptScope.Syntax.Stmt
import ScriptScope.Text.Parts

/-!
# Names of a module

The names that a module binds when it is imported, in the order of the source: those of its imports,
assignments, functions and classes, also inside control statements. The targets of loops are not
among them. There is no answer if a statement that binds names cannot be read.
-/

namespace ScriptScope

/-- The name that an item of an import statement binds; absent outside if it cannot be read. -/
def ImportItem.boundName (first : Bool) : ImportItem → Option Label
  | plain name => some (if first then name.map (Text.before '.') else name)
  | renamed _ newName => some newName
  | fault => none

/-- The names that an assignment binds. -/
def Assignment.boundNames : Assignment → Option (List Label)
  | mk targets _ => some (targets.flatMap Pattern.names)
  | fault => none

namespace Stmt

mutual

/-- The names that a statement binds, in order. A decorated definition is looked into once. -/
def boundNames : Stmt → Option (List Label)
  | importNames items => items.mapM (ImportItem.boundName true)
  | importFrom _ _ items => items.mapM (ImportItem.boundName false)
  | assign items => (items.mapM Assignment.boundNames).map List.flatten
  | function name _ _ | classDef name _ _ => some [some name]
  | decorated definition =>
    match definition with
    | decorated _ => some []
    | inner => boundNames inner
  | control parts => controlNames parts
  | ret _ | other => some []
  | fault => none

/-- The names that statements bind, one after the other. -/
def bodyNames : List Stmt → Option (List Label)
  | [] => some []
  | stmt :: rest => do
    let first ← boundNames stmt
    let others ← bodyNames rest
    return first ++ others

/-- The names that the parts of a control statement bind. -/
def controlNames : Control → Option (List Label)
  | .mk _ parts => partNames parts

/-- The names that parts bind, one after the other. -/
def partNames : List Part → Option (List Label)
  | [] => some []
  | .block body :: rest => do
    let first ← bodyNames body
    let others ← partNames rest
    return first ++ others
  | .clause inner :: rest => do
    let first ← controlNames inner
    let others ← partNames rest
    return first ++ others

end

/-- The names that a module with these statements binds, each once. -/
def topLevelNames (body : List Stmt) : Option (List String) :=
  (bodyNames body).map (fun labels =>
    firstBy id (labels.filterMap (fun label => label.filter (· ≠ ""))))

end Stmt

end ScriptScope
