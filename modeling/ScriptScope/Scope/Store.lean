import ScriptScope.Context
import ScriptScope.Scope.Descriptor

/-!
# Scopes and the store that holds them

A scope is a lexical region of a script: a module, a function body or a class body. It has a table
of imported names and a table of variables, and it knows its parent and its children. The scopes of
a script and the classes they speak of live in a `Store`, which numbers both in the order in which
they are made; a scope's parent is made before it.
-/

namespace ScriptScope

/-- A lexical region and its bindings. -/
structure ScopeInfo where
  parent : Option ScopeId := none
  /-- The name of the class whose body this is. -/
  className : Option String := none
  context : Context := {}
  imports : Bindings := []
  vars : Bindings := []
  children : List ScopeId := []

instance : Inhabited ScopeInfo := ⟨{}⟩

namespace ScopeInfo

/-- Whether a scope is the body of a class. -/
def isClass (s : ScopeInfo) : Bool := s.className.isSome

/-- Whether a scope has no bindings and no children. -/
def isEmpty (s : ScopeInfo) : Bool :=
  s.imports.isEmpty && s.vars.isEmpty && s.children.isEmpty

/-- The binding of a name in this scope alone; a variable hides an import of the same name. -/
def lookup? (s : ScopeInfo) (name : Label) : Option Descriptor :=
  s.vars.get? name <|> s.imports.get? name

end ScopeInfo

/-- The scopes and classes of a script. -/
structure Store where
  scopes : List ScopeInfo := []
  classes : List ClassInfo := []

namespace Store

instance : Inhabited Store := ⟨{}⟩

/-! ### Reading -/

/-- A scope of the store. -/
def scope (st : Store) (id : ScopeId) : ScopeInfo :=
  (st.scopes[id.index]?).getD {}

/-- A class of the store. -/
def cls (st : Store) (id : ClassId) : ClassInfo :=
  (st.classes[id.index]?).getD default

/-- Up to `bound` scopes from a scope outwards. -/
def chainFrom (st : Store) : Nat → ScopeId → List ScopeId
  | 0, _ => []
  | bound + 1, s =>
    s :: match (st.scope s).parent with
      | some p => st.chainFrom bound p
      | none => []

/-- A scope and its enclosing scopes, innermost first. A scope has fewer enclosing scopes than the
store has scopes. -/
def chain (st : Store) (s : ScopeId) : List ScopeId :=
  st.chainFrom st.scopes.length s

/-- Follows the last child up to `bound` times. -/
def lastFrom (st : Store) : Nat → ScopeId → ScopeId
  | 0, s => s
  | bound + 1, s =>
    match (st.scope s).children.getLast? with
    | some c => st.lastFrom bound c
    | none => s

/-- The scope reached by following the last child as long as there is one: where the text ends. -/
def last (st : Store) (s : ScopeId) : ScopeId :=
  st.lastFrom st.scopes.length s

/-- The place of a scope below the outermost one of its chain: the positions among the children,
from the outside in. -/
def path (st : Store) (s : ScopeId) : List Nat :=
  let chain := (st.chain s).reverse
  (chain.zip chain.tail).map (fun (p, c) => (st.scope p).children.idxOf c)

/-- The outermost scope enclosing a scope. -/
def root (st : Store) (s : ScopeId) : ScopeId :=
  (st.chain s).getLast?.getD s

/-- The descriptor's type name. -/
def typeName (st : Store) : Descriptor → Option String
  | .unknown => none
  | .instanceOf typeName _ => some typeName
  | .static name => some name
  | .function fn => fn.returns
  | .script id => some (st.cls id).name

/-! ### Writing -/

/-- Changes a scope. -/
def modifyScope (st : Store) (id : ScopeId) (f : ScopeInfo → ScopeInfo) : Store :=
  { st with scopes := st.scopes.modify id.index f }

/-- Changes a class. -/
def modifyClass (st : Store) (id : ClassId) (f : ClassInfo → ClassInfo) : Store :=
  { st with classes := st.classes.modify id.index f }

/-- Adds an outermost scope. -/
def addRoot (st : Store) (ctx : Context) (className : Option String) : ScopeId × Store :=
  (⟨st.scopes.length⟩, { st with scopes := st.scopes ++ [{ className, context := ctx }] })

/-- Opens a scope inside another, as its last child and with its context. -/
def addChild (st : Store) (parent : ScopeId) (className : Option String) :
    ScopeId × Store :=
  let id : ScopeId := ⟨st.scopes.length⟩
  let child : ScopeInfo := { parent := some parent, className, context := (st.scope parent).context }
  let registered := st.modifyScope parent (fun s => { s with children := s.children ++ [id] })
  (id, { registered with scopes := registered.scopes ++ [child] })

/-- Adds a class. -/
def addClass (st : Store) (c : ClassInfo) : ClassId × Store :=
  (⟨st.classes.length⟩, { st with classes := st.classes ++ [c] })

/-- Binds a variable of a scope. -/
def bindVar (st : Store) (s : ScopeId) (name : Label) (value : Descriptor) : Store :=
  st.modifyScope s (fun info => { info with vars := info.vars.bind name value })

/-- Binds an imported name of a scope. -/
def bindImport (st : Store) (s : ScopeId) (name : Label) (value : Descriptor) : Store :=
  st.modifyScope s (fun info => { info with imports := info.imports.bind name value })

end Store

end ScriptScope
