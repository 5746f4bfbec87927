import ScriptScope.Error
import ScriptScope.Syntax.Grammar.Statement
import ScriptScope.Syntax.Stmt

/-!
# Scripts

A script is given as text or as a syntax tree. Reading it strictly fails if its tree holds an error,
and names the line of the first one; reading it tolerantly takes the tree as it is.
-/

namespace ScriptScope

/-- Where the syntax tree of a script comes from. -/
inductive Script where
  | text (source : String)
  | tree (root : Node)
  /-- The tree could not be made, for a reason outside the library. -/
  | unavailable (reason : String)

namespace Script

/-- The complaint about a tree that holds an error. -/
def syntaxError (root : Node) : Error :=
  let line := root.firstErrorLine
  let shown := (line.map (fun n => toString n)).getD "None"
  .raised (.parsing ("Syntax error near line " ++ shown) (line.map Int.ofNat)) none

/-- The syntax tree of a script. -/
def root : Script → Except Error Node
  | text source => .ok (Syntax.Statement.ofText source)
  | tree root => .ok root
  | unavailable reason =>
    .error (.raised (.parsing "Failed to parse script" none) (some (.foreign reason)))

/-- The syntax tree of a script, which must not hold an error unless errors are tolerated. -/
def parse (script : Script) (tolerant : Bool) : Except Error Node := do
  let root ← script.root
  if root.hasError && !tolerant then .error (syntaxError root) else .ok root

end Script

end ScriptScope
