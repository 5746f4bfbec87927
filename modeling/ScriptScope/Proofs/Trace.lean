import ScriptScope.Inference.Walk

/-!
# The trace of a walk

`visits` lists the statements that walking a statement comes to, outermost first, each with the
scope it stands in and the store it finds.  From a visit one can tell what the statement defines:
the function or the class that its name is bound to when it comes to its end.
-/

namespace ScriptScope

/-- A statement that a walk comes to. -/
structure Visit where
  /-- The scope that the statement stands in. -/
  scope : ScopeId
  stmt : Stmt
  /-- The store that the statement finds. -/
  before : Store

namespace Visit

/-- How the walk of the statement ends. -/
def outcome (v : Visit) : Outcome :=
  Store.walkStmt v.scope v.stmt v.before

/-- The statement comes to its end, and then the name is bound to the descriptor in its scope. -/
def Binds (v : Visit) (name : String) (d : Descriptor) : Prop :=
  v.outcome.completed = true ∧ (v.outcome.store.scope v.scope).vars.get? (some name) = some d

/-- The statement defines a function. -/
def DefinesFunction (v : Visit) (fn : Function) : Prop :=
  ∃ body, v.stmt = .function fn.name (some fn.params) body ∧ v.Binds fn.name (.function fn)

/-- The statement defines a class. -/
def DefinesClass (v : Visit) (name : String) (id : ClassId) : Prop :=
  ∃ bases body, v.stmt = .classDef name bases body ∧ v.Binds name (.script id)

end Visit

namespace Store

mutual

/-- The statements that walking a statement comes to, itself first. -/
def visits (s : ScopeId) : Stmt → Store → List Visit
  | .function name params body, st =>
    ⟨s, .function name params body, st⟩ ::
      match params with
      | none => []
      | some params =>
        let (inner, st) := st.addChild s none
        visitsIn inner body (bindParams inner params st)
  | .classDef name bases body, st =>
    let (inner, opened) := st.addChild s (some name)
    ⟨s, .classDef name bases body, st⟩ :: visitsIn inner body opened
  | .decorated definition, st => ⟨s, .decorated definition, st⟩ :: visits s definition st
  | .control parts, st => ⟨s, .control parts, st⟩ :: visitsControl s parts st
  | stmt, st => [⟨s, stmt, st⟩]

/-- The statements that walking a body comes to. -/
def visitsIn (s : ScopeId) : List Stmt → Store → List Visit
  | [], _ => []
  | stmt :: rest, st => visits s stmt st ++ visitsIn s rest (walkStmt s stmt st).store

/-- The statements that walking a control statement comes to. -/
def visitsControl (s : ScopeId) : Control → Store → List Visit
  | .mk none _, _ => []
  | .mk (some targets) parts, st =>
    visitsParts s parts (targets.foldl (fun st label => st.bindVar s label .unknown) st)

/-- The statements that walking the parts of a control statement comes to.  After a clause that
stopped there are no more. -/
def visitsParts (s : ScopeId) : List Part → Store → List Visit
  | [], _ => []
  | .block body :: rest, st => visitsIn s body st ++ visitsParts s rest (walkBody s body st)
  | .clause inner :: rest, st =>
    visitsControl s inner st ++
      if (walkControl s inner st).completed then visitsParts s rest (walkControl s inner st).store
      else []

end

end Store

end ScriptScope
