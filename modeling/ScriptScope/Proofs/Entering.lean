import ScriptScope.Proofs.BoundNames
import ScriptScope.Proofs.Endings

/-!
# Entering bindings into a scope

A scope has one table of variables and one of imports.  `Store.bindingsOf` lists the bindings that a
statement makes in the scope it stands in, in the order in which it makes them and with the
descriptors that it has for them: those of imports, assignments, loop targets and definitions, at
any depth of control statements.  What is bound inside a definition is bound in another scope and
does not count.  A value is inferred when its turn comes, so the list follows the walk from store to
store; the names alone can be read off the syntax (`Assignment.bound`).

A statement that opens no scope enters its bindings and leaves all else of every scope alone
(`Enters`).  The cases of imports, groups and targets are gone through here once, for the names that
the outline of a script is made of and for the descriptors that a lookup finds.
-/

namespace ScriptScope

/-! ### Bindings and the tables they enter -/

/-- A binding that a statement makes in the scope it stands in. -/
structure Binding where
  /-- Whether it is an import; otherwise it is a variable. -/
  imported : Bool
  label : Label
  descriptor : Descriptor
  deriving DecidableEq, Repr

namespace Binding

/-- Enters the bindings of one kind into a table, one after the other. -/
def enter (imported : Bool) (table : Bindings) (bindings : List Binding) : Bindings :=
  bindings.foldl
    (fun table b => if b.imported = imported then table.bind b.label b.descriptor else table) table

theorem enter_append (imported : Bool) (table : Bindings) (bs more : List Binding) :
    enter imported table (bs ++ more) = enter imported (enter imported table bs) more :=
  List.foldl_append

end Binding

/-! ### The bindings that a statement makes -/

namespace ImportItem

/-- The binding that an item of `import …` makes. -/
def bindings : ImportItem → List Binding
  | .plain (some path) => [⟨true, some (Text.before '.' path), .static (Text.before '.' path)⟩]
  | .renamed (some path) (some newName) => [⟨true, some newName, .static path⟩]
  | .plain none | .renamed _ _ | .fault => []

/-- The binding that an item of `from source import …` makes. -/
def bindingsFrom (source : String) : ImportItem → List Binding
  | .plain (some name) => [⟨true, some name, .static (Store.qualify source name)⟩]
  | .renamed (some name) (some newName) =>
    [⟨true, some newName, .static (Store.qualify source name)⟩]
  | .plain none | .renamed _ _ | .fault => []

end ImportItem

namespace Store

/-- The bindings that doing things in turn makes. -/
def bindingsInTurn {α : Type} (step : α → Store → Outcome) (bindings : α → Store → List Binding) :
    List α → Store → List Binding
  | [], _ => []
  | a :: rest, st => bindings a st ++ bindingsInTurn step bindings rest (step a st).store

/-- Where the bindings do not depend on the store, they are those of the things one by one. -/
theorem bindingsInTurn_eq_flatMap {α : Type} (step : α → Store → Outcome)
    (bindings : α → List Binding) (items : List α) (st : Store) :
    bindingsInTurn step (fun a _ => bindings a) items st = items.flatMap bindings := by
  induction items generalizing st with
  | nil => rfl
  | cons a rest ih => rw [bindingsInTurn, ih, List.flatMap_cons]

mutual

/-- The bindings that taking a sequence apart makes. -/
def bindingsApart (s : ScopeId) : Pattern → Expr → Store → List Binding
  | .group items, .sequence values, st =>
    if items.length ≠ values.length ∨ items.any (·.isSplat) ∨ values.any (·.isSplat) then []
    else bindingsOfGroup s items (values.zip ((st.inferGroup s items values).getD [])) st
  | _, _, _ => []

/-- The bindings that the targets of a group make. -/
def bindingsOfGroup (s : ScopeId) : List Pattern → List (Expr × Value) → Store → List Binding
  | .name label :: rest, (_, inferred) :: others, st =>
    ⟨false, label, (st.hold inferred).1⟩ ::
      bindingsOfGroup s rest others (st.assign s label inferred)
  | item :: rest, (value, _) :: others, st =>
    bindingsApart s item value st ++
      bindingsOfGroup s rest others (destructure s item value st).store
  | _, _, _ => []

end

/-- A target in a group that is not a name makes the bindings of taking its value apart. -/
theorem bindingsOfGroup_cons {s : ScopeId} {item : Pattern} (hitem : ∀ label, item ≠ .name label)
    (rest : List Pattern) (value : Expr) (v : Value) (others : List (Expr × Value)) (st : Store) :
    bindingsOfGroup s (item :: rest) ((value, v) :: others) st =
      bindingsApart s item value st ++
        bindingsOfGroup s rest others (destructure s item value st).store := by
  rw [bindingsOfGroup]
  exact fun label => hitem label

/-- The bindings that the targets of an assignment make.  All names share one value, which is
inferred for the first of them. -/
def bindingsOfTargets (s : ScopeId) (value : Expr) :
    Option Descriptor → List Pattern → Store → List Binding
  | _, [], _ => []
  | known, target :: rest, st =>
    match target with
    | .name label =>
      match known with
      | some d => ⟨false, label, d⟩ :: bindingsOfTargets s value known rest (st.bindVar s label d)
      | none =>
        let (d, st) := st.hold ((st.infer s value).getD .unknown)
        ⟨false, label, d⟩ :: bindingsOfTargets s value (some d) rest (st.bindVar s label d)
    | .group items =>
      bindingsApart s (.group items) value st ++
        bindingsOfTargets s value known rest (destructure s (.group items) value st).store
    | .member root path =>
      bindingsOfTargets s value known rest (registerPath (st.find s root) path st)
    | .splat _ | .other | .fault => bindingsOfTargets s value known rest st

/-- The bindings that an assignment makes. -/
def bindingsOfAssignment (s : ScopeId) (item : Assignment) (st : Store) : List Binding :=
  match item with
  | .mk targets (some value) => bindingsOfTargets s value none targets st
  | .mk _ none | .fault => []

/-- The function that a definition binds, once its body is walked. -/
def functionOf (st : Store) (s : ScopeId) (name : String) (params : List Label)
    (body : List Stmt) : Function :=
  let inner := (st.addChild s none).1
  ⟨name, ((st.innerWalk s none params body).returnType inner body).getD none, params, some inner⟩

mutual

/-- The bindings that a statement makes in the scope it stands in. -/
def bindingsOf (s : ScopeId) : Stmt → Store → List Binding
  | .importNames items, _ => items.flatMap ImportItem.bindings
  | .importFrom (some (some text)) true _, st =>
    (((st.scope s).context.moduleMembers (Text.dropLeading '.' text)).getD []).map
      fun name => ⟨true, some name, .static (Text.dropLeading '.' text ++ "." ++ name)⟩
  | .importFrom (some (some text)) false items, _ =>
    items.flatMap (ImportItem.bindingsFrom (Text.dropLeading '.' text))
  | .assign items, st => bindingsInTurn (walkAssignment s) (bindingsOfAssignment s) items st
  | .function name params body, st =>
    [⟨false, some name, .function (st.functionOf s name (params.getD []) body)⟩]
  -- the number of the class that is made when the body is finished
  | .classDef name _ body, st =>
    [⟨false, some name, .script ⟨(st.innerWalk s (some name) [] body).classes.length⟩⟩]
  | .decorated definition, st => bindingsOf s definition st
  | .control parts, st => bindingsOfControl s parts st
  | .importFrom _ _ _, _ | .ret _, _ | .other, _ | .fault, _ => []

/-- The bindings that the statements of a body make. -/
def bindingsOfBody (s : ScopeId) : List Stmt → Store → List Binding
  | [], _ => []
  | stmt :: rest, st => bindingsOf s stmt st ++ bindingsOfBody s rest (walkStmt s stmt st).store

/-- The bindings that a control statement makes: those of its targets, then those of its parts. -/
def bindingsOfControl (s : ScopeId) : Control → Store → List Binding
  | .mk targets parts, st =>
    (targets.getD []).map (fun label => ⟨false, label, .unknown⟩) ++
      bindingsOfParts s parts
        ((targets.getD []).foldl (fun st label => st.bindVar s label .unknown) st)

/-- The bindings that the parts of a control statement make. -/
def bindingsOfParts (s : ScopeId) : List Part → Store → List Binding
  | [], _ => []
  | .block body :: rest, st =>
    bindingsOfBody s body st ++ bindingsOfParts s rest (walkBody s body st)
  | .clause inner :: rest, st =>
    bindingsOfControl s inner st ++ bindingsOfParts s rest (walkControl s inner st).store

end

/-! ### Changing the tables of one scope -/

/-- Variables are added to a scope, and apart from it and its imports no scope changes. -/
structure Fills (s : ScopeId) (locals : List Label) (st st' : Store) : Prop where
  scopes : st'.scopes.length = st.scopes.length
  elsewhere : ∀ t, t ≠ s → st'.scope t = st.scope t
  children : (st'.scope s).children = (st.scope s).children
  names : (st'.scope s).vars.names = addNew (st.scope s).vars.names locals

/-- Bindings are entered into the tables of a scope, and apart from the tables nothing changes.  The
variables among them have the given names. -/
structure Enters (s : ScopeId) (locals : List Label) (bindings : List Binding)
    (st st' : Store) : Prop extends Fills s locals st st' where
  vars : (st'.scope s).vars = Binding.enter false (st.scope s).vars bindings
  imports : (st'.scope s).imports = Binding.enter true (st.scope s).imports bindings

variable {s : ScopeId} {st st' st'' : Store} {locals others : List Label} {bs more : List Binding}

theorem Fills.hasScope (h : Fills s locals st st') {t : ScopeId} (ht : st.HasScope t) :
    st'.HasScope t := by
  unfold HasScope
  rw [h.scopes]
  exact ht

theorem Fills.trans (h : Fills s locals st st') (h' : Fills s others st' st'') :
    Fills s (locals ++ others) st st'' where
  scopes := h'.scopes.trans h.scopes
  elsewhere t ht := (h'.elsewhere t ht).trans (h.elsewhere t ht)
  children := h'.children.trans h.children
  names := by rw [h'.names, h.names, addNew_append]

theorem Enters.trans (h : Enters s locals bs st st') (h' : Enters s others more st' st'') :
    Enters s (locals ++ others) (bs ++ more) st st'' where
  toFills := h.toFills.trans h'.toFills
  vars := by rw [h'.vars, h.vars, Binding.enter_append]
  imports := by rw [h'.imports, h.imports, Binding.enter_append]

/-- Writing to classes enters nothing. -/
theorem Enters.of_scopes_eq (h : st'.scopes = st.scopes) : Enters s [] [] st st' := by
  have hread : ∀ t, st'.scope t = st.scope t := scope_of_scopes_eq h
  refine ⟨⟨by rw [h], fun t _ => hread t, by rw [hread], ?_⟩, by rw [hread]; rfl,
    by rw [hread]; rfl⟩
  rw [hread, addNew_nil]

theorem Enters.refl (s : ScopeId) (st : Store) : Enters s [] [] st st :=
  .of_scopes_eq rfl

theorem Fills.refl (s : ScopeId) (st : Store) : Fills s [] st st :=
  (Enters.refl s st).toFills

theorem enters_bindVar (hs : st.HasScope s) (label : Label) (d : Descriptor) :
    Enters s [label] [⟨false, label, d⟩] st (st.bindVar s label d) := by
  have hvars := vars_bindVar_self st label d hs
  refine ⟨⟨by simp, fun t ht => scope_bindVar_of_ne st label d ht, by simp, ?_⟩, hvars, ?_⟩
  · rw [hvars, Bindings.names_bind, addNew_singleton]
    split <;> simp [*]
  · rw [imports_bindVar]
    rfl

theorem enters_bindImport (hs : st.HasScope s) (label : Label) (d : Descriptor) :
    Enters s [] [⟨true, label, d⟩] st (st.bindImport s label d) := by
  refine ⟨⟨by simp, fun t ht => scope_bindImport_of_ne st label d ht, by simp, ?_⟩, ?_,
    imports_bindImport_self st label d hs⟩
  · rw [vars_bindImport, addNew_nil]
  · rw [vars_bindImport]
    rfl

theorem scopes_hold (st : Store) (v : Value) : (st.hold v).2.scopes = st.scopes := by
  cases v <;> rfl

theorem enters_assign (hs : st.HasScope s) (label : Label) (v : Value) :
    Enters s [label] [⟨false, label, (st.hold v).1⟩] st (st.assign s label v) := by
  have hhold : Enters s [] [] st (st.hold v).2 := .of_scopes_eq (scopes_hold st v)
  exact hhold.trans (enters_bindVar (hhold.hasScope hs) label _)

/-- Closing a class binds its name to the class. -/
theorem enters_closeClass (hst : st.Sound) (hs : st.HasScope s) (inner : ScopeId) (name : String)
    (bases : List String) :
    Enters s [some name] [⟨false, some name, .script ⟨st.classes.length⟩⟩] st
      (st.closeClass s inner name bases).store := by
  rw [closeClass_eq hst]
  set info := st.classOfBody inner name bases
  set found := st.receivers (st.scope inner).vars
  -- making and unifying the class changes no table
  have hclasses : Enters s [] [] st (((st.addClass info).2.gather (st.addClass info).1 found).spread
      (st.addClass info).1 found) :=
    .of_scopes_eq (by rw [scopes_spread, scopes_gather, scopes_addClass])
  exact hclasses.trans (enters_bindVar (hclasses.hasScope hs) _ _)

/-! ### One thing after the other -/

/-- Binding names in turn enters their bindings in turn. -/
theorem enters_foldl {α : Type} {step : Store → α → Store} (adds : α → List Label)
    (binding : α → Binding)
    (hstep : ∀ (a : α) (st : Store), st.HasScope s → Enters s (adds a) [binding a] st (step st a))
    (items : List α) {st : Store} (hs : st.HasScope s) :
    Enters s (items.flatMap adds) (items.map binding) st (items.foldl step st) := by
  induction items generalizing st with
  | nil => exact .refl s st
  | cons a rest ih =>
    have hfirst := hstep a st hs
    exact hfirst.trans (ih (hfirst.hasScope hs))

theorem andThen_of_completed {o : Outcome} (h : o.completed = true) (next : Store → Outcome) :
    o.andThen next = next o.store := by
  unfold Outcome.andThen
  rw [ite_cond_eq_true _ _ (eq_true h)]

theorem enters_eachInTurn {α : Type} {step : α → Store → Outcome} (adds : α → List Label)
    {bindings : α → Store → List Binding} (items : List α)
    (hend : ∀ a ∈ items, ∀ st, (step a st).completed = true)
    (hstep : ∀ a ∈ items, ∀ st : Store, st.HasScope s →
      Enters s (adds a) (bindings a st) st (step a st).store)
    {st : Store} (hs : st.HasScope s) :
    Enters s (items.flatMap adds) (bindingsInTurn step bindings items st) st
      (eachInTurn step items st).store := by
  induction items generalizing st with
  | nil => exact .refl s st
  | cons a rest ih =>
    rw [List.forall_mem_cons] at hend hstep
    have hfirst := hstep.1 st hs
    rw [eachInTurn, andThen_of_completed (hend.1 st), bindingsInTurn]
    exact hfirst.trans (ih hend.2 hstep.2 (hfirst.hasScope hs))

theorem enters_targets (targets : List Label) (hs : st.HasScope s) :
    Enters s targets (targets.map fun label => ⟨false, label, .unknown⟩) st
      (targets.foldl (fun st label => st.bindVar s label .unknown) st) := by
  have h := enters_foldl (fun label => [label]) _
    (fun label st hs => enters_bindVar hs label .unknown) targets hs
  rwa [List.flatMap_singleton'] at h

/-- Each parameter is bound to a class of its own. -/
theorem fills_bindParams (params : List Label) (hs : st.HasScope s) :
    Fills s params st (bindParams s params st) := by
  induction params generalizing st with
  | nil => exact .refl s st
  | cons param rest ih =>
    have hfirst := (enters_assign hs param (.made (.placeholder s))).toFills
    exact hfirst.trans (ih (hfirst.hasScope hs))

/-! ### Imports bind no variables -/

theorem enters_importName (hs : st.HasScope s) (item : ImportItem) :
    Enters s [] item.bindings st (importName s item st).store := by
  match item with
  | .plain (some path) => exact enters_bindImport hs _ _
  | .renamed (some path) (some newName) => exact enters_bindImport hs _ _
  | .plain none | .renamed none _ | .renamed (some _) none | .fault => exact .refl s st

theorem enters_importFrom (hs : st.HasScope s) (source : String) (item : ImportItem) :
    Enters s [] (item.bindingsFrom source) st (importFrom s source item st).store := by
  match item with
  | .plain (some name) => exact enters_bindImport hs _ _
  | .renamed (some name) (some newName) => exact enters_bindImport hs _ _
  | .plain none | .renamed none _ | .renamed (some _) none | .fault => exact .refl s st

theorem enters_importAll (hs : st.HasScope s) (source : String) :
    Enters s [] ((((st.scope s).context.moduleMembers source).getD []).map
      fun name => ⟨true, some name, .static (source ++ "." ++ name)⟩) st
      (st.importAll s source) := by
  have h := enters_foldl (fun _ => []) _
    (fun name st hs => enters_bindImport hs (some name) (.static (source ++ "." ++ name)))
    (((st.scope s).context.moduleMembers source).getD []) hs
  rwa [List.flatMap_eq_nil_iff.mpr fun _ _ => rfl] at h

/-! ### Assignments bind their targets -/

theorem scopes_registerPath (owner : Value) (path : List Label) (st : Store) :
    (registerPath owner path st).scopes = st.scopes := by
  fun_induction registerPath owner path st with
  | case1 => rfl
  | case2 rest st id member st₁ d hd ih => exact ih
  | case3 rest st id member st₁ hd => rfl
  | case4 rest st info member d hd ih => exact ih
  | case5 => rfl
  | case6 => rfl

mutual

theorem enters_destructure (target : Pattern) {value : Expr} (hvalue : value.readable = true)
    {st : Store} (hs : st.HasScope s) :
    Enters s (target.bound value) (bindingsApart s target value st) st
      (destructure s target value st).store := by
  cases target with
  | group items =>
    cases value with
    | sequence values =>
      rw [Expr.readable] at hvalue
      rw [destructure, Pattern.bound, bindingsApart]
      split
      · exact .refl s st
      · rename_i hmatch
        -- each target has a value of its own
        have hlen : items.length = values.length := by
          by_contra hne
          exact hmatch (.inl hne)
        obtain ⟨inferred, hinferred⟩ := exists_inferGroup st s items hvalue
        have hfst : (values.zip inferred).map Prod.fst = values :=
          List.map_fst_zip (Nat.le_of_eq (length_inferGroup hinferred hlen).symm)
        have hgroup := enters_bindGroup items (values.zip inferred)
          (fun v hv => Expr.readable_of_mem hvalue (List.of_mem_zip hv).1) hs
        rw [hfst] at hgroup
        rw [hinferred]
        exact hgroup
    | _ => exact .refl s st
  | _ => exact .refl s st

theorem enters_bindGroup (items : List Pattern) (values : List (Expr × Value))
    (hvalues : ∀ v ∈ values, v.1.readable = true) {st : Store} (hs : st.HasScope s) :
    Enters s (Pattern.boundInGroup items (values.map Prod.fst)) (bindingsOfGroup s items values st)
      st (bindGroup s items values st).store := by
  match items, values with
  | [], _ =>
    rw [bindGroup, Pattern.boundInGroup, bindingsOfGroup]
    · exact .refl s st
    all_goals simp
  | _ :: _, [] =>
    rw [bindGroup, List.map_nil, Pattern.boundInGroup, bindingsOfGroup]
    · exact .refl s st
    all_goals simp
  | item :: rest, (value, v) :: others =>
    rw [List.forall_mem_cons] at hvalues
    rw [List.map_cons]
    by_cases hitem : ∃ label, item = .name label
    · obtain ⟨label, rfl⟩ := hitem
      have hfirst := enters_assign hs label v
      rw [bindGroup, Pattern.boundInGroup, bindingsOfGroup]
      exact hfirst.trans (enters_bindGroup rest others hvalues.2 (hfirst.hasScope hs))
    · have hitem' : ∀ label, item ≠ .name label := fun label e => hitem ⟨label, e⟩
      have hfirst := enters_destructure item hvalues.1 hs
      rw [bindGroup_cons hitem', Pattern.boundInGroup_cons hitem', bindingsOfGroup_cons hitem',
        andThen_of_completed (completed_destructure s item hvalues.1 st)]
      exact hfirst.trans (enters_bindGroup rest others hvalues.2 (hfirst.hasScope hs))

end

theorem enters_bindTargets {value : Expr} (hvalue : value.readable = true)
    {targets : List Pattern} (htargets : Pattern.allReadable targets = true)
    (known : Option Descriptor) {st : Store} (hs : st.HasScope s) :
    Enters s (targets.flatMap (Pattern.assigned value)) (bindingsOfTargets s value known targets st)
      st (bindTargets s value known targets st).store := by
  induction targets generalizing known st with
  | nil => exact .refl s st
  | cons target rest ih =>
    rw [Pattern.allReadable, Bool.and_eq_true] at htargets
    rw [List.flatMap_cons]
    cases target with
    | name label =>
      cases known with
      | some d =>
        have hfirst := enters_bindVar hs label d
        rw [bindTargets, bindingsOfTargets]
        exact hfirst.trans (ih htargets.2 _ (hfirst.hasScope hs))
      | none =>
        obtain ⟨v, hv⟩ := exists_infer st s hvalue
        have hfirst := enters_assign hs label v
        unfold bindTargets bindingsOfTargets
        dsimp only
        rw [hv]
        exact hfirst.trans (ih htargets.2 _ (hfirst.hasScope hs))
    | group items =>
      have hfirst := enters_destructure (.group items) hvalue hs
      rw [bindTargets, bindingsOfTargets,
        andThen_of_completed (completed_destructure s _ hvalue st)]
      exact hfirst.trans (ih htargets.2 _ (hfirst.hasScope hs))
    -- a member is registered on a class, and no name is bound
    | member root path =>
      have hfirst : Enters s [] [] st (registerPath (st.find s root) path st) :=
        .of_scopes_eq (scopes_registerPath _ _ _)
      rw [bindTargets, bindingsOfTargets]
      exact hfirst.trans (ih htargets.2 _ (hfirst.hasScope hs))
    | splat items => exact ih htargets.2 _ hs
    | other => exact ih htargets.2 _ hs
    | fault => simp [Pattern.readable] at htargets

theorem enters_walkAssignment {item : Assignment} (h : item.readable = true) (hs : st.HasScope s) :
    Enters s item.bound (bindingsOfAssignment s item st) st (walkAssignment s item st).store := by
  cases item with
  | fault => simp [Assignment.readable] at h
  | mk targets value =>
    cases value with
    | none => exact .refl s st
    | some value =>
      rw [Assignment.readable, Bool.and_eq_true] at h
      exact enters_bindTargets h.2 h.1 none hs

/-! ### Statements that open no scope -/

theorem enters_importNamesStmt (hs : st.HasScope s) {items : List ImportItem}
    (h : (Stmt.importNames items).readable = true) :
    Enters s [] (bindingsOf s (.importNames items) st) st
      (walkStmt s (.importNames items) st).store := by
  rw [Stmt.readable, List.all_eq_true] at h
  have hall := enters_eachInTurn (fun _ => []) items
    (fun item hitem => completed_importName s (h item hitem))
    (fun item _ st hs => enters_importName hs item) hs
  rwa [bindingsInTurn_eq_flatMap, List.flatMap_eq_nil_iff.mpr fun _ _ => rfl] at hall

theorem enters_importFromStmt (hs : st.HasScope s) {source : Option Label} {wildcard : Bool}
    {items : List ImportItem} (h : (Stmt.importFrom source wildcard items).readable = true) :
    Enters s [] (bindingsOf s (.importFrom source wildcard items) st) st
      (walkStmt s (.importFrom source wildcard items) st).store := by
  rw [Stmt.readable, Bool.and_eq_true, List.all_eq_true] at h
  obtain ⟨source, rfl⟩ := Option.isSome_iff_exists.mp h.1
  cases source with
  | none => exact .refl s st
  | some text =>
    cases wildcard with
    | true => exact enters_importAll hs _
    | false =>
      have hall := enters_eachInTurn (fun _ => []) items
        (fun item hitem => completed_importFrom s (Text.dropLeading '.' text) (h.2 item hitem))
        (fun item _ st hs => enters_importFrom hs (Text.dropLeading '.' text) item) hs
      rwa [bindingsInTurn_eq_flatMap, List.flatMap_eq_nil_iff.mpr fun _ _ => rfl] at hall

theorem enters_assignStmt (hs : st.HasScope s) {items : List Assignment}
    (h : (Stmt.assign items).readable = true) :
    Enters s (items.flatMap Assignment.bound) (bindingsOf s (.assign items) st) st
      (walkStmt s (.assign items) st).store := by
  rw [Stmt.readable, List.all_eq_true] at h
  exact enters_eachInTurn Assignment.bound items
    (fun item hitem => completed_walkAssignment s (h item hitem))
    (fun item hitem st hs => enters_walkAssignment (h item hitem) hs) hs

end Store

end ScriptScope
