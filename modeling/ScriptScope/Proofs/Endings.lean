import ScriptScope.Inference.Build
import ScriptScope.Proofs.Readable
import ScriptScope.Proofs.Writes

/-!
# Walks that come to their end

Nothing but a mark that a node could not be read stops a walk: whatever the context knows or does
not know, every readable expression has a value (`exists_infer`) and every readable statement comes
to its end (`Standing.completed_walkStmt`).
-/

namespace ScriptScope

namespace Store

/-! ### Expressions have values -/

variable {ctx : Context} {may : ScopeId → Prop} {st : Store} {s : ScopeId}

/-- Whatever the context knows, a readable expression has a value. -/
theorem exists_infer (st : Store) (s : ScopeId) {e : Expr} (he : e.readable = true) :
    ∃ v, st.infer s e = some v := by
  -- an expression asks for nothing but the values of its parts
  fun_induction infer st s e with
  | case1 | case2 | case3 | case4 | case5 => exact ⟨_, rfl⟩
  | case6 object label ih =>
    obtain ⟨v, hv⟩ := ih he
    exact ⟨_, by rw [hv]; rfl⟩
  | case7 callee ih =>
    obtain ⟨v, hv⟩ := ih he
    exact ⟨_, by rw [hv]; rfl⟩
  | case8 left right hfloat => exact ⟨_, rfl⟩
  | case9 left right hfloat hinteger => exact ⟨_, rfl⟩
  | case10 left right hfloat hinteger ihl ihr =>
    rw [Expr.readable, Bool.and_eq_true] at he
    obtain ⟨l, hl⟩ := ihl he.1
    obtain ⟨r, hr⟩ := ihr he.2
    rw [hl, Option.bind_eq_bind, Option.bind_some]
    split
    · exact ⟨r, hr⟩
    · exact ⟨l, rfl⟩
  | case11 operand ih => exact ih he
  | case12 inner ih => exact ih he
  | case13 inner ih => exact ih he
  | case14 | case15 | case16 => exact ⟨_, rfl⟩
  | case17 => simp [Expr.readable] at he

/-- The superclasses of a readable class can be named. -/
theorem exists_baseNames (st : Store) (s : ScopeId) {bases : List Expr}
    (h : Expr.allReadable bases = true) : ∃ names, st.baseNames s bases = some names := by
  obtain ⟨values, hvalues⟩ :=
    exists_mapM_eq_some fun e he => exists_infer st s (Expr.readable_of_mem h he)
  exact ⟨_, by rw [baseNames, hvalues]; rfl⟩

/-- What a readable function returns can be told. -/
theorem exists_returnType (st : Store) (s : ScopeId) {body : List Stmt}
    (h : Stmt.allReadable body = true) : ∃ returns, st.returnType s body = some returns := by
  unfold returnType
  split
  -- the last statement returns a value
  · rename_i value hlast
    have hvalue := Stmt.readable_of_mem h (List.mem_of_getLast? hlast)
    rw [Stmt.readable] at hvalue
    obtain ⟨v, hv⟩ := exists_infer st s hvalue
    exact ⟨_, by rw [hv]; rfl⟩
  · exact ⟨_, rfl⟩

/-! ### Imports and assignments come to their end -/

theorem completed_andThen {o : Outcome} {next : Store → Outcome} (ho : o.completed = true)
    (hnext : (next o.store).completed = true) : (o.andThen next).completed = true := by
  unfold Outcome.andThen
  rwa [ite_cond_eq_true _ _ (eq_true ho)]

theorem completed_eachInTurn {α : Type} {step : α → Store → Outcome} (items : List α)
    (hstep : ∀ a ∈ items, ∀ st, (step a st).completed = true) (st : Store) :
    (eachInTurn step items st).completed = true := by
  induction items generalizing st with
  | nil => rfl
  | cons a rest ih =>
    exact completed_andThen (hstep a (List.mem_cons_self ..) st)
      (ih (fun b hb => hstep b (List.mem_cons_of_mem _ hb)) _)

theorem completed_importName (s : ScopeId) {item : ImportItem} (h : item.readable = true)
    (st : Store) : (importName s item st).completed = true := by
  unfold importName
  split <;> first | rfl | simp [ImportItem.readable] at h

theorem completed_importFrom (s : ScopeId) (source : String) {item : ImportItem}
    (h : item.readable = true) (st : Store) : (importFrom s source item st).completed = true := by
  unfold importFrom
  split <;> first | rfl | simp [ImportItem.readable] at h

/-- The values for a group can be inferred. -/
theorem exists_inferGroup (st : Store) (s : ScopeId) (items : List Pattern) {values : List Expr}
    (h : Expr.allReadable values = true) :
    ∃ inferred, st.inferGroup s items values = some inferred := by
  refine exists_mapM_eq_some ?_
  rintro ⟨item, value⟩ hmem
  dsimp only
  split
  · exact exists_infer st s (Expr.readable_of_mem h (List.of_mem_zip hmem).2)
  · exact ⟨_, rfl⟩

mutual

theorem completed_destructure (s : ScopeId) (target : Pattern) {value : Expr}
    (h : value.readable = true) (st : Store) :
    (destructure s target value st).completed = true := by
  cases target with
  | group items =>
    cases value with
    | sequence values =>
      rw [Expr.readable] at h
      rw [destructure]
      split
      · rfl
      · obtain ⟨inferred, hi⟩ := exists_inferGroup st s items h
        rw [hi]
        refine completed_bindGroup s items (fun v hv => ?_) st
        exact Expr.readable_of_mem h (List.of_mem_zip hv).1
    | _ => rfl
  | _ => rfl

theorem completed_bindGroup (s : ScopeId) (items : List Pattern) {values : List (Expr × Value)}
    (h : ∀ v ∈ values, v.1.readable = true) (st : Store) :
    (bindGroup s items values st).completed = true := by
  match items, values with
  | [], _ =>
    rw [bindGroup]
    · rfl
    · simp
    · simp
  | _ :: _, [] =>
    rw [bindGroup]
    · rfl
    · simp
    · simp
  | item :: rest, (value, v) :: others =>
    rw [List.forall_mem_cons] at h
    by_cases hitem : ∃ label, item = .name label
    · obtain ⟨label, rfl⟩ := hitem
      rw [bindGroup]
      exact completed_bindGroup s rest h.2 _
    · rw [bindGroup_cons fun label e => hitem ⟨label, e⟩]
      exact completed_andThen (completed_destructure s item h.1 st)
        (completed_bindGroup s rest h.2 _)

end

theorem completed_bindTargets (s : ScopeId) {value : Expr} (hvalue : value.readable = true)
    {targets : List Pattern} (htargets : Pattern.allReadable targets = true)
    (known : Option Descriptor) (st : Store) :
    (bindTargets s value known targets st).completed = true := by
  induction targets generalizing known st with
  | nil => rfl
  | cons target rest ih =>
    rw [Pattern.allReadable, Bool.and_eq_true] at htargets
    cases target with
    | name label =>
      cases known with
      | some d =>
        rw [bindTargets]
        exact ih htargets.2 _ _
      | none =>
        obtain ⟨v, hv⟩ := exists_infer st s hvalue
        unfold bindTargets
        dsimp only
        rw [hv]
        exact ih htargets.2 _ _
    | group items =>
      rw [bindTargets]
      exact completed_andThen (completed_destructure s _ hvalue st) (ih htargets.2 _ _)
    | member root path =>
      rw [bindTargets]
      exact ih htargets.2 _ _
    | splat items => exact ih htargets.2 _ _
    | other => exact ih htargets.2 _ _
    | fault => simp [Pattern.readable] at htargets

theorem completed_walkAssignment (s : ScopeId) {item : Assignment} (h : item.readable = true)
    (st : Store) : (walkAssignment s item st).completed = true := by
  cases item with
  | fault => simp [Assignment.readable] at h
  | mk targets value =>
    cases value with
    | none => rfl
    | some value =>
      rw [Assignment.readable, Bool.and_eq_true] at h
      exact completed_bindTargets s h.2 h.1 none st

/-! ### Where a walk stands afterwards

Whichever names it binds, a walk leaves itself standing where it stood. -/

theorem Standing.after_walkStmt (h : Standing ctx may st s) (stmt : Stmt) :
    Standing ctx may (walkStmt s stmt st).store s := by
  have hwrites : Writes may (fun _ => True) st (walkStmt s stmt st).store :=
    h.writes_walkStmt fun _ _ _ _ => trivial
  exact h.after hwrites

theorem Standing.after_walkBody (h : Standing ctx may st s) (body : List Stmt) :
    Standing ctx may (walkBody s body st) s := by
  have hwrites : Writes may (fun _ => True) st (walkBody s body st) :=
    h.writes_walkBody fun _ _ _ _ => trivial
  exact h.after hwrites

theorem Standing.after_walkControl (h : Standing ctx may st s) (parts : Control) :
    Standing ctx may (walkControl s parts st).store s := by
  have hwrites : Writes may (fun _ => True) st (walkControl s parts st).store :=
    h.writes_walkControl (fun _ _ => trivial) fun _ _ _ _ => trivial
  exact h.after hwrites

theorem Standing.after_bindParams (h : Standing ctx may st s) (params : List Label) :
    Standing ctx may (bindParams s params st) s := by
  have hwrites : Writes may (fun _ => True) st (bindParams s params st) :=
    h.free.writes_bindParams params fun _ _ => trivial
  exact h.after hwrites

theorem Standing.after_targets (h : Standing ctx may st s) (targets : List Label) :
    Standing ctx may (targets.foldl (fun st label => st.bindVar s label .unknown) st) s := by
  have hwrites : Writes may (fun _ => True) st
      (targets.foldl (fun st label => st.bindVar s label .unknown) st) :=
    h.free.writes_targets targets fun _ _ => trivial
  exact h.after hwrites

/-- A definition that is entered in a scope of its own leaves the walk outside where it stands. -/
theorem Standing.after_innerWalk (h : Standing ctx may st s) (className : Option String)
    (params : List Label) (body : List Stmt) :
    Standing ctx may (st.innerWalk s className params body) s := by
  have hwrites : Writes may (fun _ => True) st (st.innerWalk s className params body) :=
    (h.free.writes_innerWalk className params (fun _ _ => trivial)
      fun h => h.toStanding.writes_walkBody fun _ _ _ _ => trivial).1
  exact h.after hwrites

/-- The scope of a definition is there after its body was walked. -/
theorem Standing.hasScope_innerWalk (h : Standing ctx may st s)
    (className : Option String) (params : List Label) (body : List Stmt) :
    (st.innerWalk s className params body).HasScope (st.addChild s className).1 :=
  (((h.inner className).after_bindParams params).after_walkBody body).has

/-! ### Statements come to their end -/

theorem exists_walkStmt_function (s : ScopeId) (name : String) (params : List Label)
    {body : List Stmt} (h : Stmt.allReadable body = true) (st : Store) :
    ∃ returns, walkStmt s (.function name (some params) body) st =
      .done ((st.innerWalk s none params body).bindVar s (some name)
        (.function ⟨name, returns, params, some (st.addChild s none).1⟩)) := by
  obtain ⟨returns, hreturns⟩ :=
    exists_returnType (st.innerWalk s none params body) (st.addChild s none).1 h
  exact ⟨returns, by rw [walkStmt_function_eq, hreturns]⟩

theorem exists_walkStmt_classDef (s : ScopeId) (name : String) {bases : List Expr}
    (h : Expr.allReadable bases = true) (body : List Stmt) (st : Store) :
    ∃ superclasses, (st.innerWalk s (some name) [] body).baseNames s bases = some superclasses ∧
      walkStmt s (.classDef name bases body) st =
        (st.innerWalk s (some name) [] body).closeClass s (st.addChild s (some name)).1 name
          superclasses := by
  obtain ⟨superclasses, hbases⟩ := exists_baseNames (st.innerWalk s (some name) [] body) s h
  exact ⟨superclasses, hbases, by rw [walkStmt_classDef_eq, hbases]⟩

theorem completed_function (s : ScopeId) {name : String} {params : Option (List Label)}
    {body : List Stmt} (h : (Stmt.function name params body).readable = true) (st : Store) :
    (walkStmt s (.function name params body) st).completed = true := by
  rw [Stmt.readable, Bool.and_eq_true] at h
  obtain ⟨params, rfl⟩ := Option.isSome_iff_exists.mp h.1
  obtain ⟨returns, hend⟩ := exists_walkStmt_function s name params h.2 st
  rw [hend]
  rfl

theorem Standing.completed_classDef (hs : Standing ctx may st s) {name : String}
    {bases : List Expr} {body : List Stmt}
    (h : (Stmt.classDef name bases body).readable = true) :
    (walkStmt s (.classDef name bases body) st).completed = true := by
  rw [Stmt.readable, Bool.and_eq_true] at h
  obtain ⟨superclasses, -, hend⟩ := exists_walkStmt_classDef s name h.1 body st
  rw [hend, closeClass_eq (hs.after_innerWalk (some name) [] body).sound]
  rfl

mutual

/-- A readable statement comes to its end, whatever the context knows. -/
theorem Standing.completed_walkStmt (stmt : Stmt) {st : Store} (hs : Standing ctx may st s)
    (h : stmt.readable = true) : (walkStmt s stmt st).completed = true := by
  -- a body is walked to its end whether or not its statements are, so only the rest can stop
  cases stmt with
  | importNames items =>
    rw [Stmt.readable, List.all_eq_true] at h
    rw [walkStmt]
    exact completed_eachInTurn items (fun item hitem => completed_importName s (h item hitem)) st
  | importFrom source wildcard items =>
    rw [Stmt.readable, Bool.and_eq_true, List.all_eq_true] at h
    match source, wildcard with
    | none, _ => simp at h
    | some none, _ => rfl
    | some (some text), true => rfl
    | some (some text), false =>
      exact completed_eachInTurn items
        (fun item hitem => completed_importFrom s _ (h.2 item hitem)) st
  | assign items =>
    rw [Stmt.readable, List.all_eq_true] at h
    rw [walkStmt]
    exact completed_eachInTurn items
      (fun item hitem => completed_walkAssignment s (h item hitem)) st
  | function name params body => exact completed_function s h st
  | classDef name bases body => exact hs.completed_classDef h
  | decorated definition =>
    rw [walkStmt]
    exact Standing.completed_walkStmt definition hs h
  | control parts =>
    rw [walkStmt]
    exact Standing.completed_walkControl parts hs h
  | ret value => rfl
  | other => rfl
  | fault => simp [Stmt.readable] at h

theorem Standing.completed_walkControl (parts : Control) {st : Store} (hs : Standing ctx may st s)
    (h : parts.readable = true) : (walkControl s parts st).completed = true := by
  match parts with
  | .mk targets parts =>
    rw [Control.readable, Bool.and_eq_true] at h
    obtain ⟨targets, rfl⟩ := Option.isSome_iff_exists.mp h.1
    rw [walkControl]
    exact Standing.completed_walkParts parts (hs.after_targets targets) h.2

theorem Standing.completed_walkParts (parts : List Part) {st : Store} (hs : Standing ctx may st s)
    (h : Part.allReadable parts = true) : (walkParts s parts st).completed = true := by
  match parts with
  | [] => rfl
  | .block body :: rest =>
    rw [Part.allReadable, Bool.and_eq_true] at h
    rw [walkParts]
    exact Standing.completed_walkParts rest (hs.after_walkBody body) h.2
  | .clause inner :: rest =>
    rw [Part.allReadable, Bool.and_eq_true] at h
    rw [walkParts]
    exact completed_andThen (Standing.completed_walkControl inner hs h.1)
      (Standing.completed_walkParts rest (hs.after_walkControl inner) h.2)

end

end Store

/-! ### Scripts -/

namespace Analysis

open Store

/-- At the start of a script no scope has bindings, a parent or children. -/
theorem scope_empty (ctx : Context) (s : ScopeId) :
    (empty ctx).store.scope s = { context := ctx } ∨ (empty ctx).store.scope s = {} := by
  by_cases hs : (empty ctx).store.HasScope s
  · have hzero : s = ⟨0⟩ := ScopeId.ext (Nat.lt_one_iff.mp hs)
    exact .inl (by rw [hzero]; rfl)
  · exact .inr (scope_of_not_hasScope hs)

theorem lookup?_empty (ctx : Context) (s : ScopeId) (label : Label) :
    ((empty ctx).store.scope s).lookup? label = none := by
  rcases scope_empty ctx s with e | e <;> rw [e] <;> rfl

/-- The store that a script starts from refers to nothing. -/
theorem sound_empty (ctx : Context) : (empty ctx).store.Sound := by
  refine ⟨?_, ?_, ?_, ?_, ?_⟩
  · intro s p hp
    rcases scope_empty ctx s with e | e <;> simp [e] at hp
  · intro s c hc
    rcases scope_empty ctx s with e | e <;> simp [e] at hc
  · intro s
    rcases scope_empty ctx s with e | e <;> rw [e] <;> exact .nil _
  · intro s
    rcases scope_empty ctx s with e | e <;> rw [e] <;> exact .nil _
  · intro id s hs
    simp [empty, addRoot, cls, default] at hs

/-- A script starts in its outermost scope. -/
theorem standing_empty (ctx : Context) {may : ScopeId → Prop} (hmay : ∀ t, may t) :
    Standing ctx may (empty ctx).store (empty ctx).root where
  sound := sound_empty ctx
  has := Nat.zero_lt_one
  context := rfl
  here := hmay _
  later t _ := hmay t

end Analysis

end ScriptScope
