import ScriptScope.Inference.Infer
import ScriptScope.Inference.Unify
import ScriptScope.Syntax.Stmt

/-!
# From statements to scopes

Walking a statement in a scope enters what it binds into the store. A statement that cannot be read
stops where the reading fails, and what it did before stays; the statements after it are walked all
the same. Functions and classes open a scope inside the current one, while the blocks of control
statements belong to the current scope.
-/

namespace ScriptScope

/-- The store after a piece of work, and whether the work came to its end. -/
structure Outcome where
  store : Store
  completed : Bool

namespace Outcome

/-- Work that came to its end. -/
def done (st : Store) : Outcome := ⟨st, true⟩

/-- Work that stopped. -/
def stopped (st : Store) : Outcome := ⟨st, false⟩

/-- Goes on with the store, unless the work has stopped. -/
def andThen (o : Outcome) (next : Store → Outcome) : Outcome :=
  if o.completed then next o.store else o

end Outcome

/-- Does a piece of work for each element in turn, until one stops. -/
def eachInTurn (step : α → Store → Outcome) : List α → Store → Outcome
  | [], st => .done st
  | a :: rest, st => (step a st).andThen (eachInTurn step rest)

namespace Store

/-! ### Imports -/

/-- Binds a name of `import a, b.c, d.e as f`; a dotted name binds its first component. -/
def importName (s : ScopeId) (item : ImportItem) (st : Store) : Outcome :=
  match item with
  | .plain (some path) =>
    let first := Text.before '.' path
    .done (st.bindImport s (some first) (.static first))
  | .renamed (some path) (some newName) => .done (st.bindImport s (some newName) (.static path))
  | .plain none | .renamed _ _ => .done st
  | .fault => .stopped st

/-- A name inside a module, if the module has a name. -/
def qualify (source name : String) : String :=
  if source = "" then name else source ++ "." ++ name

/-- Binds a name of `from source import a, b as c`. -/
def importFrom (s : ScopeId) (source : String) (item : ImportItem) (st : Store) : Outcome :=
  match item with
  | .plain (some name) => .done (st.bindImport s (some name) (.static (qualify source name)))
  | .renamed (some name) (some newName) =>
    .done (st.bindImport s (some newName) (.static (qualify source name)))
  | .plain none | .renamed _ _ => .done st
  | .fault => .stopped st

/-- Binds all names of a module, as far as they are known. -/
def importAll (st : Store) (s : ScopeId) (source : String) : Store :=
  (((st.scope s).context.moduleMembers source).getD []).foldl
    (fun st name => st.bindImport s (some name) (.static (source ++ "." ++ name))) st

/-! ### Assignments -/

/-- Registers members along a chain of accesses that starts at a value: each is added to the class
of its owner, and the next owner is what the body of that class binds it to. -/
def registerPath (owner : Value) : List Label → Store → Store
  | [], st => st
  | label :: rest, st =>
    match owner, label with
    | .held (.script id), some member =>
      let st := st.modifyClass id (·.put (some member))
      match st.bodyBinding? (st.cls id) (some member) with
      | some d => registerPath (.held d) rest st
      | none => st
    | .made info, some member =>
      match st.bodyBinding? info (some member) with
      | some d => registerPath (.held d) rest st
      | none => st
    | _, _ => st

/-- Binds a variable to a value. -/
def assign (st : Store) (s : ScopeId) (label : Label) (value : Value) : Store :=
  (st.hold value).2.bindVar s label (st.hold value).1

/-- The values for the names among a group of targets. -/
def inferGroup (st : Store) (s : ScopeId) (items : List Pattern) (values : List Expr) :
    Option (List Value) :=
  (items.zip values).mapM (fun (item, value) =>
    match item with
    | .name _ => st.infer s value
    | _ => some .unknown)

mutual

/-- Takes a sequence apart. All names of a group are inferred before the first of them is bound;
groups inside it are taken apart when their turn comes. -/
def destructure (s : ScopeId) : Pattern → Expr → Store → Outcome
  | .group items, .sequence values, st =>
    if items.length ≠ values.length ∨ items.any (·.isSplat) ∨ values.any (·.isSplat) then .done st
    else
      match st.inferGroup s items values with
      | none => .stopped st
      | some inferred => bindGroup s items (values.zip inferred) st
  | _, _, st => .done st

/-- Binds the targets of a group to their values. -/
def bindGroup (s : ScopeId) : List Pattern → List (Expr × Value) → Store → Outcome
  | .name label :: rest, (_, inferred) :: others, st =>
    bindGroup s rest others (st.assign s label inferred)
  | item :: rest, (value, _) :: others, st =>
    (destructure s item value st).andThen (bindGroup s rest others)
  | _, _, st => .done st

end

/-- Binds the targets of an assignment from left to right. The value is inferred when the first name
needs it, and all names of the statement share it. -/
def bindTargets (s : ScopeId) (value : Expr) : Option Descriptor → List Pattern → Store → Outcome
  | _, [], st => .done st
  | known, target :: rest, st =>
    match target with
    | .name label =>
      match known with
      | some d => bindTargets s value known rest (st.bindVar s label d)
      | none =>
        match st.infer s value with
        | none => .stopped st
        | some inferred =>
          let (d, st) := st.hold inferred
          bindTargets s value (some d) rest (st.bindVar s label d)
    | .group items => (destructure s (.group items) value st).andThen (bindTargets s value known rest)
    | .member root path => bindTargets s value known rest (registerPath (st.find s root) path st)
    | .splat _ | .other => bindTargets s value known rest st
    | .fault => .stopped st

/-- Walks an assignment. -/
def walkAssignment (s : ScopeId) (item : Assignment) (st : Store) : Outcome :=
  match item with
  | .mk targets (some value) => bindTargets s value none targets st
  | .mk _ none => .done st
  | .fault => .stopped st

/-! ### Definitions -/

/-- Binds the parameters of a function, each to a placeholder of its own. -/
def bindParams (s : ScopeId) (params : List Label) (st : Store) : Store :=
  params.foldl (fun st param => st.assign s param (.made (.placeholder s))) st

/-- The type that a function returns, read off its last statement; absent outside if the expression
cannot be read. A type that is only a placeholder is not known. -/
def returnType (st : Store) (s : ScopeId) (body : List Stmt) : Option (Option String) :=
  match body.getLast? with
  | some (.ret value) =>
    (st.infer s value).map (fun v => (st.valueType v).filter (· ≠ placeholderName))
  | _ => some none

/-- The names of the superclasses of a class that are known where it stands. -/
def baseNames (st : Store) (s : ScopeId) (bases : List Expr) : Option (List String) :=
  (bases.mapM (st.infer s)).map (fun values =>
    values.filterMap (fun v => (st.valueType v).filter (· ≠ placeholderName)))

/-- The functions and classes that a table binds. -/
def ownMembers (table : Bindings) : List Label :=
  (table.filter (fun (_, d) =>
    match d with
    | .function _ | .script _ => true
    | _ => false)).map (·.1)

/-- The parameters of the constructor that a class body defines, without the receiver. -/
def constructorParams (table : Bindings) : List Label :=
  match table.get? (some "__init__") with
  | some (.function fn) => fn.params.drop 1
  | _ => []

/-- Ends a class: makes it from its body, unifies its receivers and binds it. -/
def closeClass (st : Store) (outer inner : ScopeId) (name : String) (bases : List String) : Outcome :=
  let table := (st.scope inner).vars
  let (id, st) := st.addClass ⟨name, bases, constructorParams table, ownMembers table, some inner⟩
  match st.unify id with
  | none => .stopped st
  | some (_, st) => .done (st.bindVar outer (some name) (.script id))

/-! ### Statements -/

mutual

/-- Walks a statement in a scope. -/
def walkStmt (s : ScopeId) : Stmt → Store → Outcome
  | .importNames items, st => eachInTurn (importName s) items st
  | .importFrom source wildcard items, st =>
    match source with
    | none => .stopped st
    | some none => .done st
    | some (some text) =>
      let source := Text.dropLeading '.' text
      if wildcard then .done (st.importAll s source) else eachInTurn (importFrom s source) items st
  | .assign items, st => eachInTurn (walkAssignment s) items st
  | .function name params body, st =>
    let (inner, st) := st.addChild s none
    match params with
    | none => .stopped st
    | some params =>
      let st := walkBody inner body (bindParams inner params st)
      match st.returnType inner body with
      | none => .stopped st
      | some returns =>
        .done (st.bindVar s (some name) (.function ⟨name, returns, params, some inner⟩))
  | .classDef name bases body, st =>
    let (inner, st) := st.addChild s (some name)
    let st := walkBody inner body st
    match st.baseNames s bases with
    | none => .stopped st
    | some bases => st.closeClass s inner name bases
  | .decorated definition, st => walkStmt s definition st
  | .control parts, st => walkControl s parts st
  | .ret _, st | .other, st => .done st
  | .fault, st => .stopped st

/-- Walks statements one after the other, whether or not each comes to its end. -/
def walkBody (s : ScopeId) : List Stmt → Store → Store
  | [], st => st
  | stmt :: rest, st => walkBody s rest (walkStmt s stmt st).store

/-- Walks a control statement or clause: binds its own targets, of which nothing is known, and walks
its parts. -/
def walkControl (s : ScopeId) : Control → Store → Outcome
  | .mk none _, st => .stopped st
  | .mk (some targets) parts, st =>
    walkParts s parts (targets.foldl (fun st label => st.bindVar s label .unknown) st)

/-- Walks the parts of a control statement. -/
def walkParts (s : ScopeId) : List Part → Store → Outcome
  | [], st => .done st
  | .block body :: rest, st => walkParts s rest (walkBody s body st)
  | .clause inner :: rest, st => (walkControl s inner st).andThen (walkParts s rest)

end

end Store

end ScriptScope
