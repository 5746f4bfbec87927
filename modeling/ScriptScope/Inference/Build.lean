import ScriptScope.Inference.Members
import ScriptScope.Inference.Walk
import ScriptScope.Syntax.Script

/-!
# Building the scopes of a script

An `Analysis` is a store together with the outermost scope of the script it was built from. A script
that cannot be parsed has an outermost scope with nothing in it.
-/

namespace ScriptScope

/-- The scopes of a script. -/
structure Analysis where
  store : Store
  root : ScopeId

namespace Analysis

/-- An outermost scope with nothing in it. -/
def empty (ctx : Context) : Analysis :=
  let (root, store) := ({} : Store).addRoot ctx none
  ⟨store, root⟩

/-- Builds the scopes of statements. -/
def ofStatements (ctx : Context) (body : List Stmt) : Analysis :=
  let start := empty ctx
  { start with store := Store.walkBody start.root body start.store }

/-- Builds the scopes of a script. -/
def ofScript (ctx : Context) (tolerant : Bool) (script : Script) : Analysis :=
  match script.parse tolerant with
  | .ok root => ofStatements ctx (Stmt.ofModule root)
  | .error _ => empty ctx

/-- The scope at the end of the script. -/
def last (a : Analysis) : ScopeId :=
  a.store.last a.root

end Analysis

end ScriptScope
