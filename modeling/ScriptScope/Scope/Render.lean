import ScriptScope.Scope.Lookup
import ScriptScope.Scope.Tree
import ScriptScope.Text.Quoted

/-!
# Scopes as text

Short descriptions of descriptors, the indented listing of a scope tree, and the one-line summary of
a scope. A description lists parameters and members by name, so it does not exist for a function or
class that has one without a name.
-/

namespace ScriptScope

/-- A binding's name as listings show it. -/
def Label.shown (label : Label) : String :=
  label.getD "None"

/-- Names separated by commas, if all are there. -/
def Label.joined (labels : List Label) : Option String :=
  (labels.mapM id).map (", ".intercalate ·)

/-- Describes a class by its name, its superclasses and its members. -/
def ClassInfo.describe (c : ClassInfo) : Option String :=
  (Label.joined c.members).map (fun members =>
    "Class(" ++ c.name ++ "(" ++ ", ".intercalate c.bases ++ ") [" ++ members ++ "])")

/-- Describes a function by its name, its parameters and the type it returns. -/
def Function.describe (f : Function) : Option String :=
  (Label.joined f.params).map (fun params =>
    "Function(" ++ f.name ++ "(" ++ params ++ ") -> " ++ f.returns.getD "None" ++ ")")

namespace Store

/-- The short description of a descriptor. -/
def describe (st : Store) : Descriptor → Option String
  | .unknown => some "Unknown"
  | .instanceOf typeName _ => some ("Instance(" ++ typeName ++ ")")
  | .static name => some ("Static(" ++ name ++ ")")
  | .function fn => fn.describe
  | .script id => (st.cls id).describe

/-- The short description of a value. -/
def describeValue (st : Store) : Value → Option String
  | .held d => st.describe d
  | .made info => info.describe

/-- The lines that list a table, each with a lead before the name. -/
def tableLines (st : Store) (lead : String) (table : Bindings) : Option (List String) :=
  table.mapM (fun (name, d) => (st.describe d).map (fun text => lead ++ name.shown ++ ": " ++ text))

mutual

/-- The listing of a scope tree at a depth. -/
def treeLines (st : Store) (depth : Nat) : ScopeTree → Option (List String)
  | .mk className imports vars children => do
    let pad := String.ofList (List.replicate (2 * depth) ' ')
    let header := match className with
      | some name => if name = "" then "scope" else "class " ++ name
      | none => "scope"
    let imported ← st.tableLines (pad ++ "  import ") imports
    let assigned ← st.tableLines (pad ++ "  ") vars
    let inner ← st.forestLines (depth + 1) children
    return (pad ++ header) :: imported ++ assigned ++ inner

/-- The listings of scope trees at a depth, one after the other. -/
def forestLines (st : Store) (depth : Nat) : List ScopeTree → Option (List String)
  | [] => some []
  | t :: rest => do
    let first ← st.treeLines depth t
    let others ← st.forestLines depth rest
    return first ++ others

end

/-- The listing of a scope and everything below it. -/
def dump (st : Store) (s : ScopeId) : Option String :=
  (st.treeLines 0 (st.tree s)).map ("\n".intercalate ·)

/-- Names between brackets, each quoted. -/
def quotedList (labels : List Label) : String :=
  "[" ++ ", ".intercalate (labels.map (fun l => (l.map Text.quoted).getD "None")) ++ "]"

/-- The one-line summary of a scope. -/
def summary (st : Store) (s : ScopeId) : String :=
  let info := st.scope s
  "Scope(class_name=" ++ (info.className.map Text.quoted).getD "None"
    ++ ", vars=" ++ quotedList info.vars.names
    ++ ", imports=" ++ quotedList info.imports.names
    ++ ", children=" ++ toString info.children.length ++ ")"

end Store

end ScriptScope
