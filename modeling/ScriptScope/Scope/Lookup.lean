import ScriptScope.Data.FirstBy
import ScriptScope.Host.Types
import ScriptScope.Scope.Store
import ScriptScope.Text.Parts

/-!
# Looking names up

A name is looked up from a scope outwards; within a scope a variable hides an import. A name that no
scope binds may be a builtin: if the builtin symbols list members for it, the lookup makes up a
class with these members. Such a class is not in the store, and two lookups make two classes.

The questions about several names at once (which names start with a text, which variables fit a
type) read the tables of all scopes on the way out, innermost first. They have no answer if one of
these tables holds a binding without a name, as damaged trees can produce.
-/

namespace ScriptScope

/-- What a lookup or an expression yields. -/
inductive Value where
  /-- A descriptor; a class in it is one of the store. -/
  | held (descriptor : Descriptor)
  /-- A class made up for this answer alone. -/
  | made (info : ClassInfo)
  deriving DecidableEq, Repr

namespace Value

instance : Inhabited Value := ⟨held .unknown⟩

/-- Nothing is known about the value. -/
def unknown : Value := held .unknown

/-- Whether nothing is known about a value. -/
def isUnknown : Value → Bool
  | held .unknown => true
  | _ => false

end Value

namespace Store

/-- The class a value is, if it is one. -/
def classOf? (st : Store) : Value → Option ClassInfo
  | .held (.script id) => some (st.cls id)
  | .made info => some info
  | _ => none

/-- The type name of a value. -/
def valueType (st : Store) : Value → Option String
  | .held d => st.typeName d
  | .made info => some info.name

/-- Makes a value something that can be bound: a class made up for it enters the store. -/
def hold (st : Store) : Value → Descriptor × Store
  | .held d => (d, st)
  | .made info =>
    let (id, st) := st.addClass info
    (.script id, st)

/-! ### One name -/

/-- The innermost binding of a name. -/
def binding? (st : Store) (s : ScopeId) (name : Label) : Option Descriptor :=
  (st.chain s).findSome? (fun i => (st.scope i).lookup? name)

/-- The members that the builtin symbols list for a name. -/
def builtinMembers (st : Store) (s : ScopeId) (name : String) : List String :=
  let ctx := (st.scope s).context
  ctx.builtinEntries.filterMap (Text.after? (ctx.builtinModule ++ "." ++ name ++ "."))

/-- The class made up for a builtin name, if the builtin symbols list members for it. -/
def builtin? (st : Store) (s : ScopeId) (name : String) : Option ClassInfo :=
  let members := st.builtinMembers s name
  if members.isEmpty then none else some ⟨name, [], [], members.map some, some s⟩

/-- Looks a name up from a scope. A missing name is never a builtin: symbols listed under `None`,
the text of a missing name, are not found by it. -/
def find (st : Store) (s : ScopeId) (name : Label) : Value :=
  match st.binding? s name with
  | some d => .held d
  | none =>
    match name.bind (st.builtin? s) with
    | some info => .made info
    | none => .unknown

/-- A bound name is found as it is bound innermost. -/
theorem find_of_binding? {st : Store} {s : ScopeId} {name : Label} {d : Descriptor}
    (h : st.binding? s name = some d) : st.find s name = .held d := by
  simp [find, h]

/-! ### Several names -/

/-- The variables in sight of a scope, innermost first, shadowed ones included. -/
def varsInSight (st : Store) (s : ScopeId) : Bindings :=
  (st.chain s).flatMap (fun i => (st.scope i).vars)

/-- All bindings in sight of a scope, innermost first, shadowed ones included. -/
def bindingsInSight (st : Store) (s : ScopeId) : Bindings :=
  (st.chain s).flatMap (fun i => (st.scope i).vars ++ (st.scope i).imports)

/-- The builtin names: the first components of the builtin symbols. -/
def builtinNames (st : Store) (s : ScopeId) : List String :=
  let ctx := (st.scope s).context
  (ctx.builtinEntries.filterMap (Text.after? (ctx.builtinModule ++ "."))).filterMap (fun rest =>
    let name := Text.before '.' rest
    if name = "" then none else some name)

/-- A table in which every binding has a name. -/
def named? (table : Bindings) : Option (List (String × Descriptor)) :=
  table.mapM (fun (name, d) => name.map (·, d))

/-- The names in sight that start with a text, builtin ones included. -/
def namesStartingWith (st : Store) (s : ScopeId) (start : String) : Option (List String) :=
  (named? (st.bindingsInSight s)).map (fun table =>
    firstBy id ((table.map (·.1) ++ st.builtinNames s).filter (Text.startsWith · start)))

/-- The names in sight that start with a text, each with the type of its innermost binding; a
builtin name has none. -/
def typedNamesStartingWith (st : Store) (s : ScopeId) (start : String) :
    Option (List (String × Option String)) :=
  (named? (st.bindingsInSight s)).map (fun table =>
    let typed := table.map (fun (name, d) => (name, st.typeName d)) ++ (st.builtinNames s).map (·, none)
    firstBy (·.1) (typed.filter (fun entry => Text.startsWith entry.1 start)))

/-- The variables in sight, each with its innermost binding. -/
def allVars (st : Store) (s : ScopeId) : Bindings :=
  firstBy (·.1) (st.varsInSight s)

/-- The variables in sight whose value can be passed as a type, innermost first. Names that start
with the capture name are left out, and so is a variable that another one shadows. -/
def varsOfType (st : Store) (s : ScopeId) (target : String) (hostTarget : Option String) :
    Option (List String) :=
  (named? (st.allVars s)).map (fun table =>
    (table.filter (fun (name, d) =>
      !Text.startsWith name (st.scope s).context.captureName
        && Host.isAssignable (st.typeName d) target hostTarget)).map (·.1))

end Store

end ScriptScope
