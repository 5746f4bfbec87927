import ScriptScope.Inference.Listing

/-!
# Members of values

What can follow a value and a dot. An instance offers what its type declares for instances, a class
offers the members of its lineage, and a name that was imported offers what the module, the host
class or the result of the host method of that name offers.

Classes that are made up on the way are laid out by a `Heap`; where none is given, no address comes
back.
-/

namespace ScriptScope

/-- A member offered for a value. -/
structure Entry where
  name : Label
  /-- The class or module that declares the member. -/
  declaring : Option String
  /-- The type of the member; for a method, that of its result. -/
  typeName : Option String
  /-- The parameters of a callable member. -/
  params : Option (List Label)
  isStatic : Bool
  deriving DecidableEq, Repr

namespace Entry

instance : Inhabited Entry := ⟨⟨none, none, none, none, false⟩⟩

/-- A member of which only the name and the owner are known. -/
def plain (name : Label) (declaring : String) : Entry :=
  ⟨name, some declaring, none, none, false⟩

/-- The entry of a host member. -/
def ofHost (m : Host.Member) : Entry :=
  { name := some m.name
    declaring := some m.declaring
    typeName := m.typeName
    params := if m.isField then none else some (m.parameters.map some)
    isStatic := m.isStatic }

end Entry

namespace Store

/-! ### Classes -/

/-- The entry of a member of a class: a function or a class in its body can be called. -/
def ownEntry (st : Store) (c : ClassInfo) (member : Label) : Entry :=
  match st.bodyBinding? c member with
  | some (.function fn) => ⟨member, some c.name, fn.returns, some (fn.params.drop 1), false⟩
  | some (.script id) => ⟨member, some c.name, some (st.cls id).name, some (st.cls id).params, false⟩
  | _ => .plain member c.name

/-- The entries that a place on a lineage contributes. -/
def entriesAt (st : Store) : Ancestor → List Entry
  | .host members => members.map Entry.ofHost
  | .script id => (st.cls id).members.map (st.ownEntry (st.cls id))
  | .made info => info.members.map (st.ownEntry info)

/-- The members of a class; a member hides those of the same name that are listed later. -/
def classMembers (ctx : Context) (st : Store) (start : Ancestor) (heap : Heap) : List Entry :=
  firstBy Entry.name ((listing ctx st start heap).flatMap st.entriesAt)

/-! ### Other values -/

/-- The members of a value of a named type. -/
def instanceMembers (ctx : Context) (st : Store) (typeName : String) (scope : Option ScopeId)
    (heap : Heap) : List Entry :=
  match ctx.reflect typeName with
  | some members => (members.filter (fun m => !m.isStatic)).map Entry.ofHost
  | none =>
    match scope.bind (fun s => ancestorOf? (st.find s (some typeName))) with
    | some start => classMembers ctx st start heap
    | none => []

/-- The types that the methods of a name among host members return, each once. -/
def returnTypes (members : List Host.Member) (method : String) : List String :=
  firstBy id (members.filterMap (fun m =>
    if !m.isField && m.name == method then m.typeName.filter (· ≠ "") else none))

/-- The members of what the host method `owner.method` returns. -/
def resultMembers (ctx : Context) (name : String) : List Entry :=
  let (owner, method) := Text.splitLast '.' name
  if owner = "" then []
  else (returnTypes ((ctx.reflect owner).getD []) method).flatMap (fun type =>
    (((ctx.reflect type).getD []).filter (fun m => !m.isStatic)).map Entry.ofHost)

/-- The members of an imported name. -/
def staticMembers (ctx : Context) (name : String) : List Entry :=
  match ctx.moduleMembers name with
  | some members => members.map (fun m => Entry.plain (some m) name)
  | none =>
    match ctx.reflect name with
    | some members => (members.filter (·.isStatic)).map Entry.ofHost
    | none => resultMembers ctx name

/-- The members of a value. -/
def members (ctx : Context) (st : Store) (v : Value) (heap : Heap := .ample) : List Entry :=
  match v with
  | .held .unknown => []
  | .held (.instanceOf typeName scope) => instanceMembers ctx st typeName scope heap
  | .held (.static name) => staticMembers ctx name
  | .held (.function fn) =>
    match fn.returns with
    | none => []
    | some typeName => if typeName = "" then [] else instanceMembers ctx st typeName fn.scope heap
  | .held (.script id) => classMembers ctx st (.script id) heap
  | .made info => classMembers ctx st (.made info) heap

end Store

end ScriptScope
