import ScriptScope.Proofs.Entering
import ScriptScope.Proofs.Unfolding
import ScriptScope.Proofs.Visits

/-!
# The outline of a script

The outline of a tree of scopes is what is left of it without the values: which scopes there are,
the class that each is the body of, and the names of its variables in order.  `Stmt.outline` reads
an outline off the statements of a script.  The two agree for every readable script and every
context (`Analysis.outline_of_readable`): what the context knows has no say in which names and which
scopes there are.

A statement fills the scope that it stands in with names (`Fills`), and it may open scopes there;
what it does to the outline of its scope is `Draws`.  Scopes that are there already are left alone,
since a walk writes only to its own scope and to those that it opens.
-/

namespace ScriptScope

/-- A tree of scopes without the values. -/
inductive Outline where
  | mk (className : Option String) (names : List Label) (inner : List Outline)
  deriving Repr

mutual

/-- The outline of a tree of scopes. -/
def ScopeTree.outline : ScopeTree → Outline
  | .mk className _ vars children => .mk className vars.names (ScopeTree.outlines children)

/-- The outlines of trees. -/
def ScopeTree.outlines : List ScopeTree → List Outline
  | [] => []
  | tree :: rest => tree.outline :: ScopeTree.outlines rest

end

theorem ScopeTree.outlines_eq_map (trees : List ScopeTree) :
    ScopeTree.outlines trees = trees.map ScopeTree.outline := by
  induction trees with
  | nil => rfl
  | cons tree rest ih => rw [ScopeTree.outlines, ih, List.map_cons]

/-! ### Reading the outline off the statements -/

mutual

/-- The variables that a statement binds in the scope it stands in, in the order in which they are
bound. -/
def Stmt.locals : Stmt → List Label
  | .assign items => items.flatMap Assignment.bound
  | .function name _ _ | .classDef name _ _ => [some name]
  | .decorated definition => definition.locals
  | .control parts => parts.locals
  | .importNames _ | .importFrom _ _ _ | .ret _ | .other | .fault => []

/-- The variables that the statements of a body bind. -/
def Stmt.localsIn : List Stmt → List Label
  | [] => []
  | stmt :: rest => stmt.locals ++ Stmt.localsIn rest

/-- The variables that a control statement binds: its targets, and those of its parts. -/
def Control.locals : Control → List Label
  | .mk targets parts => targets.getD [] ++ Part.localsIn parts

/-- The variables that the parts of a control statement bind. -/
def Part.localsIn : List Part → List Label
  | [] => []
  | .block body :: rest => Stmt.localsIn body ++ Part.localsIn rest
  | .clause inner :: rest => inner.locals ++ Part.localsIn rest

end

mutual

/-- The outlines of the scopes that a statement opens in the scope it stands in.  Functions and
classes open one each; control statements open none of their own. -/
def Stmt.outlines : Stmt → List Outline
  | .function _ params body =>
    [.mk none (firstBy id (params.getD [] ++ Stmt.localsIn body)) (Stmt.outlinesIn body)]
  | .classDef name _ body =>
    [.mk (some name) (firstBy id (Stmt.localsIn body)) (Stmt.outlinesIn body)]
  | .decorated definition => definition.outlines
  | .control parts => parts.outlines
  | .importNames _ | .importFrom _ _ _ | .assign _ | .ret _ | .other | .fault => []

/-- The outlines of the scopes that the statements of a body open. -/
def Stmt.outlinesIn : List Stmt → List Outline
  | [] => []
  | stmt :: rest => stmt.outlines ++ Stmt.outlinesIn rest

/-- The outlines of the scopes that the parts of a control statement open. -/
def Control.outlines : Control → List Outline
  | .mk _ parts => Part.outlinesIn parts

/-- The outlines of the scopes that parts of a control statement open. -/
def Part.outlinesIn : List Part → List Outline
  | [] => []
  | .block body :: rest => Stmt.outlinesIn body ++ Part.outlinesIn rest
  | .clause inner :: rest => inner.outlines ++ Part.outlinesIn rest

end

/-- The outline of a script. -/
def Stmt.outline (body : List Stmt) : Outline :=
  .mk none (firstBy id (Stmt.localsIn body)) (Stmt.outlinesIn body)

namespace Store

variable {s : ScopeId} {st st' st'' : Store} {locals others : List Label}

/-! ### Drawing the outline of a scope -/

/-- The outline of a scope and of what is below it. -/
def outlineAt (st : Store) (s : ScopeId) : Outline :=
  (st.tree s).outline

theorem outlineAt_eq (hst : st.Sound) (s : ScopeId) :
    st.outlineAt s = .mk (st.scope s).className (st.scope s).vars.names
      ((st.scope s).children.map st.outlineAt) := by
  unfold outlineAt
  rw [tree_eq hst, ScopeTree.outline, ScopeTree.outlines_eq_map, List.map_map]
  rfl

/-- A scope gains variables, and scopes with the given outlines are opened in it. -/
structure Draws (s : ScopeId) (locals : List Label) (inner : List Outline) (st st' : Store) :
    Prop where
  names : (st'.scope s).vars.names = addNew (st.scope s).vars.names locals
  inner : (st'.scope s).children.map st'.outlineAt =
    (st.scope s).children.map st.outlineAt ++ inner

theorem Draws.trans {inner more : List Outline} (h : Draws s locals inner st st')
    (h' : Draws s others more st' st'') : Draws s (locals ++ others) (inner ++ more) st st'' where
  names := by rw [h'.names, h.names, addNew_append]
  inner := by rw [h'.inner, h.inner, List.append_assoc]

/-- What is below a scope keeps its outline while the scope is filled. -/
theorem Fills.draws (h : Fills s locals st st') (hst : st.Sound) (hst' : st'.Sound) :
    Draws s locals [] st st' := by
  refine ⟨h.names, ?_⟩
  rw [h.children, List.append_nil]
  refine List.map_congr_left fun c hc => congrArg ScopeTree.outline ?_
  have hlt := hst.lt_child hc
  refine tree_eq_of_scope_eq hst hst' (hst.child s c hc).1 fun t _ hle => h.elsewhere t ?_
  rintro rfl
  omega

theorem Draws.refl (hst : st.Sound) (s : ScopeId) : Draws s [] [] st st :=
  (Fills.refl s st).draws hst hst

/-- The scopes that a walk in `s` may write to: `s` itself, and those from `base` on. -/
def Near (s : ScopeId) (base : Nat) (t : ScopeId) : Prop :=
  t = s ∨ base ≤ t.index

/-- A walk in a scope writes to this scope and to those that it opens. -/
theorem standing_near (hst : st.Sound) (hs : st.HasScope s) :
    Standing (st.scope s).context (Near s st.scopes.length) st s :=
  ⟨hst, hs, rfl, .inl rfl, fun _ ht => .inr ht⟩

/-! ### Definitions -/

section Definition

variable {className : Option String} {mid after : Store} {names : Label → Prop}
  (hmid : Writes (Near (st.addChild s className).1 (st.addChild s className).2.scopes.length) names
    (st.addChild s className).2 mid)

include hmid

/-- A walk in a new scope leaves those that were there before as they were when it was opened. -/
theorem scope_of_writes_inner {t : ScopeId} (ht : st.HasScope t) :
    mid.scope t = (st.addChild s className).2.scope t := by
  unfold HasScope at ht
  refine hmid.change.elsewhere t (by unfold HasScope; simp; omega) ?_
  rintro (rfl | hle)
  · exact Nat.lt_irrefl _ ht
  · rw [length_scopes_addChild] at hle
    omega

variable (hst : st.Sound) (hs : st.HasScope s)

include hst hs

/-- The outline of a new scope is drawn by its parameters and its body. -/
theorem outlineAt_inner {bound : Store} {inner : List Outline}
    (hparams : Fills (st.addChild s className).1 locals (st.addChild s className).2 bound)
    (hbody : Draws (st.addChild s className).1 others inner bound mid) :
    mid.outlineAt (st.addChild s className).1 =
      .mk className (firstBy id (locals ++ others)) inner := by
  have hopened := hst.addChild className hs
  have hnew := scope_addChild_new st s className
  have hhas : (st.addChild s className).2.HasScope (st.addChild s className).1 := by simp [HasScope]
  rw [outlineAt_eq (hmid.sound hopened), hmid.change.className _ hhas, hnew, hbody.names,
    hbody.inner, hparams.names, hparams.children, hnew]
  congr 1
  rw [← addNew_append]
  rfl

/-- A definition draws the outline of its scope, and binds a name. -/
theorem draws_definition {label : Label} {outline : Outline}
    (houtline : mid.outlineAt (st.addChild s className).1 = outline)
    (hbind : Fills s [label] mid after) (hafter : after.Sound) :
    Draws s [label] [outline] st after := by
  have hopened := hst.addChild className hs
  have hmidSound := hmid.sound hopened
  -- while the new scope is walked, `s` has it as its last child and is otherwise as before
  have hhere : mid.scope s = { st.scope s with
      children := (st.scope s).children ++ [(st.addChild s className).1] } := by
    rw [scope_of_writes_inner hmid hs, scope_addChild_self st className hs]
  refine ⟨by rw [hbind.names, hhere], ?_⟩
  rw [hbind.children, hhere, List.map_append, List.map_singleton, ← houtline]
  congr 1
  -- a scope that was there before is younger than `s` and older than the new one
  · refine List.map_congr_left fun c hc => congrArg ScopeTree.outline ?_
    have hlt := hst.lt_child hc
    refine tree_eq_of_scope_eq hst hafter (hst.child s c hc).1 fun t ht hle => ?_
    have hne : t ≠ s := by
      rintro rfl
      omega
    have hnew : t ≠ (st.addChild s className).1 := by
      rintro rfl
      exact Nat.lt_irrefl _ ht
    rw [hbind.elsewhere t hne, scope_of_writes_inner hmid ht,
      scope_addChild_of_ne st className hne hnew]
  -- binding the name does not reach into the new scope
  · refine congrArg (fun tree => [ScopeTree.outline tree]) ?_
    have hhas : mid.HasScope (st.addChild s className).1 :=
      hmid.change.hasScope (by simp [HasScope])
    refine tree_eq_of_scope_eq hmidSound hafter hhas fun t _ hle => hbind.elsewhere t ?_
    rintro rfl
    exact absurd hs (Nat.not_lt.mpr hle)

end Definition

/-- A definition that is walked in a new scope writes to that scope and to those that it opens. -/
theorem writes_inner (hst : st.Sound) (hs : st.HasScope s) (className : Option String)
    (params : List Label) (body : List Stmt) :
    Writes (Near (st.addChild s className).1 (st.addChild s className).2.scopes.length)
      (fun _ => True) (st.addChild s className).2 (st.innerWalk s className params body) := by
  have hstand := standing_near (hst.addChild className hs) (s := (st.addChild s className).1)
    (by simp [HasScope])
  have hparams : Writes (Near (st.addChild s className).1 (st.addChild s className).2.scopes.length)
      (fun _ => True) _ _ := hstand.free.writes_bindParams params fun _ _ => trivial
  exact hparams.trans
    ((hstand.after hparams).writes_walkBody fun _ _ _ _ => trivial)

/-- What a definition does in its own scope leaves the tables outside alone. -/
theorem tables_innerWalk (hst : st.Sound) (hs : st.HasScope s) (className : Option String)
    (params : List Label) (body : List Stmt) :
    ((st.innerWalk s className params body).scope s).vars = (st.scope s).vars ∧
      ((st.innerWalk s className params body).scope s).imports = (st.scope s).imports := by
  rw [scope_of_writes_inner (writes_inner hst hs className params body) hs]
  exact tables_addChild className hs s

/-- After a definition was walked, its scope is the last child of the scope around it. -/
theorem getLast?_children_innerWalk (hst : st.Sound) (hs : st.HasScope s)
    (className : Option String) (params : List Label) (body : List Stmt) :
    ((st.innerWalk s className params body).scope s).children.getLast? =
      some (st.addChild s className).1 := by
  rw [scope_of_writes_inner (writes_inner hst hs className params body) hs,
    scope_addChild_self st className hs]
  exact List.getLast?_concat

/-- The scope of a definition stands in the scope that the definition was walked in. -/
theorem parent_innerWalk (hst : st.Sound) (hs : st.HasScope s) (className : Option String)
    (params : List Label) (body : List Stmt) :
    ((st.innerWalk s className params body).scope (st.addChild s className).1).parent =
      some s := by
  have hwrites := writes_inner hst hs className params body
  have hhas : (st.addChild s className).2.HasScope (st.addChild s className).1 := by
    simp [HasScope]
  rw [hwrites.change.parent _ hhas, scope_addChild_new]

theorem className_innerWalk (hst : st.Sound) (hs : st.HasScope s) (className : Option String)
    (params : List Label) (body : List Stmt) :
    ((st.innerWalk s className params body).scope (st.addChild s className).1).className =
      className := by
  have hwrites := writes_inner hst hs className params body
  have hhas : (st.addChild s className).2.HasScope (st.addChild s className).1 := by
    simp [HasScope]
  rw [hwrites.change.className _ hhas, scope_addChild_new]

/-- The outline of the scope of a definition is drawn by its parameters and its body. -/
theorem outlineAt_innerWalk (hst : st.Sound) (hs : st.HasScope s) (className : Option String)
    (params : List Label) {body : List Stmt}
    (hbody : ∀ {inner : ScopeId} {st : Store}, st.Sound → st.HasScope inner →
      Draws inner (Stmt.localsIn body) (Stmt.outlinesIn body) st (walkBody inner body st)) :
    (st.innerWalk s className params body).outlineAt (st.addChild s className).1 =
      .mk className (firstBy id (params ++ Stmt.localsIn body)) (Stmt.outlinesIn body) := by
  have hhas : (st.addChild s className).2.HasScope (st.addChild s className).1 := by simp [HasScope]
  have hinside := (standing_near (hst.addChild className hs) hhas).after_bindParams params
  exact outlineAt_inner (writes_inner hst hs className params body) hst hs
    (fills_bindParams params hhas) (hbody hinside.sound hinside.has)

/-- A function draws the outline of its scope and binds its name. -/
theorem draws_function (hst : st.Sound) (hs : st.HasScope s) {name : String}
    {params : Option (List Label)} {body : List Stmt}
    (h : (Stmt.function name params body).readable = true)
    (hbody : ∀ {inner : ScopeId} {st : Store}, st.Sound → st.HasScope inner →
      Draws inner (Stmt.localsIn body) (Stmt.outlinesIn body) st (walkBody inner body st)) :
    Draws s [some name] (Stmt.outlines (.function name params body)) st
      (walkStmt s (.function name params body) st).store := by
  have hafter := ((standing_near hst hs).after_walkStmt (.function name params body)).sound
  rw [Stmt.readable, Bool.and_eq_true] at h
  obtain ⟨params, rfl⟩ := Option.isSome_iff_exists.mp h.1
  obtain ⟨returns, hend⟩ := exists_walkStmt_function s name params h.2 st
  have hmid := ((standing_near hst hs).after_innerWalk none params body).has
  rw [hend] at hafter ⊢
  exact draws_definition (writes_inner hst hs none params body) hst hs
    (outlineAt_innerWalk hst hs none params hbody) (enters_bindVar hmid _ _).toFills
    hafter

theorem draws_classDef (hst : st.Sound) (hs : st.HasScope s) {name : String} {bases : List Expr}
    {body : List Stmt} (h : (Stmt.classDef name bases body).readable = true)
    (hbody : ∀ {inner : ScopeId} {st : Store}, st.Sound → st.HasScope inner →
      Draws inner (Stmt.localsIn body) (Stmt.outlinesIn body) st (walkBody inner body st)) :
    Draws s [some name] (Stmt.outlines (.classDef name bases body)) st
      (walkStmt s (.classDef name bases body) st).store := by
  have hafter := ((standing_near hst hs).after_walkStmt (.classDef name bases body)).sound
  rw [Stmt.readable, Bool.and_eq_true] at h
  obtain ⟨superclasses, -, hend⟩ := exists_walkStmt_classDef s name h.1 body st
  have hmid := (standing_near hst hs).after_innerWalk (some name) [] body
  rw [hend] at hafter ⊢
  exact draws_definition (writes_inner hst hs (some name) [] body) hst hs
    (outlineAt_innerWalk hst hs (some name) [] hbody)
    (enters_closeClass hmid.sound hmid.has ..).toFills hafter

/-! ### Statements -/

mutual

/-- A readable statement draws what can be read off it. -/
theorem draws_walkStmt (stmt : Stmt) {s : ScopeId} {st : Store} (hst : st.Sound)
    (hs : st.HasScope s) (h : stmt.readable = true) :
    Draws s stmt.locals stmt.outlines st (walkStmt s stmt st).store := by
  have hafter := ((standing_near hst hs).after_walkStmt stmt).sound
  -- on the statement; only definitions draw scopes, all others fill the one they stand in
  cases stmt with
  | importNames items => exact (enters_importNamesStmt hs h).toFills.draws hst hafter
  | importFrom source wildcard items => exact (enters_importFromStmt hs h).toFills.draws hst hafter
  | assign items => exact (enters_assignStmt hs h).toFills.draws hst hafter
  | function name params body =>
    have hbody : Stmt.allReadable body = true := by
      rw [Stmt.readable, Bool.and_eq_true] at h
      exact h.2
    exact draws_function hst hs h fun hst hs => draws_walkBody body hst hs hbody
  | classDef name bases body =>
    have hbody : Stmt.allReadable body = true := by
      rw [Stmt.readable, Bool.and_eq_true] at h
      exact h.2
    exact draws_classDef hst hs h fun hst hs => draws_walkBody body hst hs hbody
  | decorated definition => exact draws_walkStmt definition hst hs h
  | control parts => exact draws_walkControl parts hst hs h
  | ret value => exact .refl hst s
  | other => exact .refl hst s
  | fault => simp [Stmt.readable] at h

theorem draws_walkBody (body : List Stmt) {s : ScopeId} {st : Store} (hst : st.Sound)
    (hs : st.HasScope s) (h : Stmt.allReadable body = true) :
    Draws s (Stmt.localsIn body) (Stmt.outlinesIn body) st (walkBody s body st) := by
  match body with
  | [] => exact .refl hst s
  | stmt :: rest =>
    rw [Stmt.allReadable, Bool.and_eq_true] at h
    have hstand := (standing_near hst hs).after_walkStmt stmt
    rw [Stmt.localsIn, Stmt.outlinesIn, walkBody]
    exact (draws_walkStmt stmt hst hs h.1).trans (draws_walkBody rest hstand.sound hstand.has h.2)

theorem draws_walkControl (parts : Control) {s : ScopeId} {st : Store} (hst : st.Sound)
    (hs : st.HasScope s) (h : parts.readable = true) :
    Draws s parts.locals parts.outlines st (walkControl s parts st).store := by
  match parts with
  | .mk targets parts =>
    rw [Control.readable, Bool.and_eq_true] at h
    obtain ⟨targets, rfl⟩ := Option.isSome_iff_exists.mp h.1
    have hstand := (standing_near hst hs).after_targets targets
    rw [Control.locals, Control.outlines, walkControl]
    exact ((enters_targets targets hs).toFills.draws hst hstand.sound).trans
      (draws_walkParts parts hstand.sound hstand.has h.2)

theorem draws_walkParts (parts : List Part) {s : ScopeId} {st : Store} (hst : st.Sound)
    (hs : st.HasScope s) (h : Part.allReadable parts = true) :
    Draws s (Part.localsIn parts) (Part.outlinesIn parts) st (walkParts s parts st).store := by
  match parts with
  | [] => exact .refl hst s
  | .block body :: rest =>
    rw [Part.allReadable, Bool.and_eq_true] at h
    have hstand := (standing_near hst hs).after_walkBody body
    rw [Part.localsIn, Part.outlinesIn, walkParts]
    exact (draws_walkBody body hst hs h.1).trans (draws_walkParts rest hstand.sound hstand.has h.2)
  | .clause inner :: rest =>
    rw [Part.allReadable, Bool.and_eq_true] at h
    have hstand := (standing_near hst hs).after_walkControl inner
    rw [Part.localsIn, Part.outlinesIn, walkParts,
      andThen_of_completed (Standing.completed_walkControl inner (standing_near hst hs) h.1)]
    exact (draws_walkControl inner hst hs h.1).trans
      (draws_walkParts rest hstand.sound hstand.has h.2)

end

end Store

namespace Analysis

open Store

/-- The outline of the scopes that are built from readable statements can be read off them. -/
theorem outline_tree_ofStatements (ctx : Context) {body : List Stmt}
    (h : Stmt.allReadable body = true) :
    ((ofStatements ctx body).store.tree (ofStatements ctx body).root).outline =
      Stmt.outline body := by
  set start := (empty ctx).store with hstart
  set root := (empty ctx).root with hroot
  have hstand : Standing ctx (fun _ => True) start root := standing_empty ctx fun _ => trivial
  have hwrites : Writes (fun _ => True) (fun _ => True) start (walkBody root body start) :=
    hstand.writes_walkBody fun _ _ _ _ => trivial
  have hdraws := draws_walkBody body hstand.sound hstand.has h
  have hclass := hwrites.change.className root hstand.has
  show (walkBody root body start).outlineAt root = _
  rw [outlineAt_eq (hwrites.sound hstand.sound), hclass, hdraws.names, hdraws.inner]
  rfl

/-- **The outline of a script depends on its text alone.**  Whatever the context answers, building
the scopes of readable statements comes to every one of them, none is given up half-way, and the
tree of scopes has the outline that is read off the statements; so any two contexts agree on it. -/
theorem outline_of_readable (ctx : Context) {body : List Stmt} (h : Stmt.allReadable body = true) :
    Exhausts (visitsIn (empty ctx).root body (empty ctx).store) (Stmt.orderIn body) ∧
    ((ofStatements ctx body).store.tree (ofStatements ctx body).root).outline =
      Stmt.outline body ∧
    ∀ other : Context,
      ((ofStatements other body).store.tree (ofStatements other body).root).outline =
        ((ofStatements ctx body).store.tree (ofStatements ctx body).root).outline := by
  have hstand : Standing ctx (fun _ => True) (empty ctx).store (empty ctx).root :=
    standing_empty ctx fun _ => trivial
  refine ⟨Standing.exhausts_visitsIn body hstand h, outline_tree_ofStatements ctx h, ?_⟩
  intro other
  rw [outline_tree_ofStatements other h, outline_tree_ofStatements ctx h]

/-- A decorated class in a loop, whose method takes a pair apart and defines a function. -/
def nestedScript : List Stmt :=
  [ .control (.mk (some [some "i"])
      [.block [.decorated (.classDef "C" [.name (some "Base")]
        [.function "m" (some [some "self"])
          [ .assign [.mk [.group [.name (some "a"), .name (some "self")]]
              (some (.sequence [.integer, .call (.name (some "unknown"))]))],
            .function "inner" (some []) [] ]])]]),
    .assign [.mk [.name (some "x"), .name (some "i")]
      (some (.member (.name (some "C")) (some "m")))] ]

theorem outline_nestedScript :
    Stmt.allReadable nestedScript = true ∧
    ∀ ctx,
      ((ofStatements ctx nestedScript).store.tree (ofStatements ctx nestedScript).root).outline =
      .mk none [some "i", some "C", some "x"]
        [.mk (some "C") [some "m"]
          [.mk none [some "self", some "a", some "inner"] [.mk none [] []]]] := by
  have h : Stmt.allReadable nestedScript = true := by decide
  refine ⟨h, fun ctx => ?_⟩
  exact (outline_of_readable ctx h).2.1.trans rfl

end Analysis

end ScriptScope
