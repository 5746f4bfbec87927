import ScriptScope.Scope.Store

/-!
# The tree of scopes

A `ScopeTree` is a scope with everything below it, written out. The store refers to scopes by
number; the tree shows what these references describe.
-/

namespace ScriptScope

/-- A scope, its bindings and the scopes inside it. -/
inductive ScopeTree where
  | mk (className : Option String) (imports vars : Bindings) (children : List ScopeTree)
  deriving Repr

namespace ScopeTree

instance : Inhabited ScopeTree := ⟨mk none [] [] []⟩

end ScopeTree

namespace Store

/-- A scope with what is below it, down to `bound` levels. -/
def treeFrom (st : Store) : Nat → ScopeId → ScopeTree
  | 0, s => .mk (st.scope s).className (st.scope s).imports (st.scope s).vars []
  | bound + 1, s =>
    .mk (st.scope s).className (st.scope s).imports (st.scope s).vars
      ((st.scope s).children.map (st.treeFrom bound))

/-- A scope with everything below it. A scope has fewer scopes above it than the store has scopes.
-/
def tree (st : Store) (s : ScopeId) : ScopeTree :=
  st.treeFrom st.scopes.length s

end Store

end ScriptScope
