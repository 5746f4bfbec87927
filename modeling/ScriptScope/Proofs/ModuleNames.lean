import ScriptScope.Module.Names
import ScriptScope.Proofs.Outline

/-!
# The names of a module and the scopes of a walk

`Stmt.topLevelNames` reads the names of a module off its statements, without building scopes.  A
walk of the same statements binds names in the outermost scope.  Nothing that is inside a function or a
class binds anything there (`Standing.boundTo_walkBody`), and what the statements bind that stand in
the outermost scope, be it inside control statements, is among the names that are read off
(`boundNames_of_mem_visitsIn`).  The two differ by the targets of loops and by `from … import *`,
which are not read off (`topLevelNames_complete`).
-/

namespace ScriptScope

/-! ### Targets and imports -/

namespace Pattern

mutual

/-- Taking a value apart binds no name that the target does not have. -/
theorem mem_names_of_mem_bound (target : Pattern) (value : Expr) {label : Label}
    (h : label ∈ target.bound value) : label ∈ target.names := by
  match target, value with
  | .group items, .sequence values =>
    rw [bound] at h
    split at h
    · simp at h
    · rw [names]
      exact mem_namesOfEach_of_mem_boundInGroup items values h

theorem mem_namesOfEach_of_mem_boundInGroup (items : List Pattern) (values : List Expr)
    {label : Label} (h : label ∈ boundInGroup items values) : label ∈ namesOfEach items := by
  match items, values with
  | [], _ => simp [boundInGroup] at h
  | _ :: _, [] => simp [boundInGroup] at h
  | item :: rest, value :: others =>
    rw [namesOfEach, List.mem_append]
    by_cases hitem : ∃ name, item = .name name
    · obtain ⟨name, rfl⟩ := hitem
      rw [boundInGroup, List.mem_cons] at h
      rcases h with rfl | h
      · exact .inl (List.mem_singleton_self _)
      · exact .inr (mem_namesOfEach_of_mem_boundInGroup rest others h)
    · rw [boundInGroup_cons (fun name e => hitem ⟨name, e⟩), List.mem_append] at h
      rcases h with h | h
      · exact .inl (mem_names_of_mem_bound item value h)
      · exact .inr (mem_namesOfEach_of_mem_boundInGroup rest others h)

end

/-- An assignment binds no name that its target does not have. -/
theorem mem_names_of_mem_assigned {target : Pattern} {value : Expr} {label : Label}
    (h : label ∈ target.assigned value) : label ∈ target.names := by
  cases target with
  | name own => exact h
  | group items => exact mem_names_of_mem_bound (.group items) value h
  | splat items => simp [assigned] at h
  | member root path => simp [assigned] at h
  | other => simp [assigned] at h
  | fault => simp [assigned] at h

end Pattern

/-- The names that an assignment binds are listed. -/
theorem Assignment.mem_boundNames {item : Assignment} {names : List Label} {label : Label}
    (hnames : item.boundNames = some names) (h : label ∈ item.bound) : label ∈ names := by
  cases item with
  | fault => simp [bound] at h
  | mk targets value =>
    cases value with
    | none => simp [bound] at h
    | some value =>
      rw [boundNames, Option.some.injEq] at hnames
      rw [bound, List.mem_flatMap] at h
      obtain ⟨target, htarget, hlabel⟩ := h
      rw [← hnames, List.mem_flatMap]
      exact ⟨target, htarget, Pattern.mem_names_of_mem_assigned hlabel⟩

theorem ImportItem.boundName_of_mem_bound {item : ImportItem} {label : Label}
    (h : label ∈ item.bound) : item.boundName true = some label := by
  unfold bound at h
  split at h
  · rw [List.mem_singleton.mp h]
    rfl
  · rw [List.mem_singleton.mp h]
    rfl
  · simp at h
  · simp at h
  · simp at h

theorem ImportItem.boundName_of_mem_boundFrom {item : ImportItem} {label : Label}
    (h : label ∈ item.boundFrom) : item.boundName false = some label := by
  unfold boundFrom at h
  split at h
  · rw [List.mem_singleton.mp h]
    rfl
  · rw [List.mem_singleton.mp h]
    rfl
  · simp at h
  · simp at h
  · simp at h

/-! ### Statements that stand in a scope -/

namespace Stmt

/-- The names that a statement binds in the scope it stands in.  A function binds its parameters
inside. -/
def bindsHere (ctx : Context) : Stmt → List Label
  | .function name _ _ => [some name]
  | stmt => stmt.binds ctx

/-- The statements that bind names of their own: imports of given names, assignments, functions and
classes. -/
def isNaming : Stmt → Bool
  | .importNames _ | .importFrom _ false _ | .assign _ | .function _ _ _ | .classDef _ _ _ => true
  | .importFrom _ true _ | .decorated _ | .control _ | .ret _ | .other | .fault => false

/-- The names that such a statement binds are listed. -/
theorem mem_boundNames {ctx : Context} {stmt : Stmt} {names : List Label} {label : Label}
    (hnaming : stmt.isNaming = true) (hnames : stmt.boundNames = some names)
    (h : label ∈ stmt.bindsHere ctx) : label ∈ names := by
  cases stmt with
  | importNames items =>
    rw [boundNames] at hnames
    obtain ⟨item, hitem, hlabel⟩ := List.mem_flatMap.mp h
    obtain ⟨own, hown, hbound⟩ := exists_mem_of_mapM hnames hitem
    have hsame := (ImportItem.boundName_of_mem_bound hlabel).symm.trans hbound
    rwa [Option.some.inj hsame]
  | importFrom source wildcard items =>
    cases wildcard with
    | true => simp [isNaming] at hnaming
    | false =>
      rw [boundNames] at hnames
      match source with
      | none => simp [bindsHere, binds] at h
      | some none => simp [bindsHere, binds] at h
      | some (some text) =>
        obtain ⟨item, hitem, hlabel⟩ := List.mem_flatMap.mp h
        obtain ⟨own, hown, hbound⟩ := exists_mem_of_mapM hnames hitem
        have hsame := (ImportItem.boundName_of_mem_boundFrom hlabel).symm.trans hbound
        rwa [Option.some.inj hsame]
  | assign items =>
    rw [boundNames, Option.map_eq_some_iff] at hnames
    obtain ⟨each, heach, hflat⟩ := hnames
    obtain ⟨item, hitem, hlabel⟩ := List.mem_flatMap.mp h
    obtain ⟨own, hown, hbound⟩ := exists_mem_of_mapM heach hitem
    rw [← hflat, List.mem_flatten]
    exact ⟨own, hown, Assignment.mem_boundNames hbound hlabel⟩
  | function name params body =>
    rw [boundNames, Option.some.injEq] at hnames
    rw [← hnames]
    exact h
  | classDef name bases body =>
    rw [boundNames, Option.some.injEq] at hnames
    rw [← hnames]
    exact h
  | decorated definition => simp [isNaming] at hnaming
  | control parts => simp [isNaming] at hnaming
  | ret value => simp [isNaming] at hnaming
  | other => simp [isNaming] at hnaming
  | fault => simp [isNaming] at hnaming

end Stmt

/-- What the tables of a scope have for a name: the variable and the import. -/
def ScopeInfo.boundTo (info : ScopeInfo) (label : Label) : Option Descriptor × Option Descriptor :=
  (info.vars.get? label, info.imports.get? label)

namespace Store

variable {ctx : Context} {may : ScopeId → Prop} {st st' : Store} {s : ScopeId} {label : Label}

theorem Change.boundTo {names : Label → Prop} (h : Change may names st st') (t : ScopeId)
    (hno : ¬ names label) : (st'.scope t).boundTo label = (st.scope t).boundTo label :=
  Prod.ext (h.vars t label hno) (h.imports t label hno)

theorem Standing.boundTo_innerWalk (h : Standing ctx may st s) (className : Option String)
    (params : List Label) (body : List Stmt) :
    ((st.innerWalk s className params body).scope s).boundTo label =
      (st.scope s).boundTo label := by
  obtain ⟨hvars, himports⟩ := tables_innerWalk h.sound h.has className params body
  unfold ScopeInfo.boundTo
  rw [hvars, himports]

/-- A statement without statements inside binds what it binds by itself. -/
theorem Standing.boundTo_of_order (h : Standing ctx may st s) {stmt : Stmt}
    (horder : stmt.order = [stmt]) (hno : label ∉ stmt.binds ctx) :
    ((walkStmt s stmt st).store.scope s).boundTo label = (st.scope s).boundTo label := by
  have hwrites : Writes may (· ∈ stmt.binds ctx) st (walkStmt s stmt st).store := by
    refine h.writes_walkStmt fun x hx other hother => ?_
    rw [horder, List.mem_singleton] at hx
    rwa [hx] at hother
  exact hwrites.change.boundTo s hno

mutual

theorem Standing.boundTo_walkStmt (stmt : Stmt) {s : ScopeId} {st : Store}
    (h : Standing ctx may st s)
    (hno : ∀ v ∈ visits s stmt st, v.scope = s → label ∉ v.stmt.bindsHere ctx) :
    ((walkStmt s stmt st).store.scope s).boundTo label = (st.scope s).boundTo label := by
  -- on the statement; a definition binds its own name outside and nothing else
  cases stmt with
  | function name params body =>
    cases params with
    | none =>
      have hhere := tables_addChild none h.has s
      rw [walkStmt]
      exact Prod.ext (congrArg (Bindings.get? · label) hhere.1)
        (congrArg (Bindings.get? · label) hhere.2)
    | some params =>
      have hname := hno _ (List.mem_cons_self ..) rfl
      have hend : Writes may (· = some name) (st.innerWalk s none params body)
          (walkStmt s (.function name (some params) body) st).store :=
        (h.after_innerWalk none params body).free.writes_functionEnd
          (h.hasScope_innerWalk none params body) rfl (Visit.meets_free _)
      rw [hend.change.boundTo s fun e => hname (List.mem_singleton.mpr e), h.boundTo_innerWalk]
  | classDef name bases body =>
    have hname := hno _ (List.mem_cons_self ..) rfl
    have hend : Writes may (· = some name) (st.innerWalk s (some name) [] body)
        (walkStmt s (.classDef name bases body) st).store :=
      (h.after_innerWalk (some name) [] body).free.writes_classEnd
        (h.hasScope_innerWalk (some name) [] body) rfl (Visit.meets_free _)
    rw [hend.change.boundTo s fun e => hname (List.mem_singleton.mpr e), h.boundTo_innerWalk]
  | decorated definition =>
    rw [visits, List.forall_mem_cons] at hno
    rw [walkStmt]
    exact Standing.boundTo_walkStmt definition h hno.2
  | control parts =>
    rw [visits, List.forall_mem_cons] at hno
    rw [walkStmt]
    exact Standing.boundTo_walkControl parts h (hno.1 rfl) hno.2
  | importNames items => exact h.boundTo_of_order rfl (hno _ (List.mem_singleton_self _) rfl)
  | importFrom source wildcard items =>
    exact h.boundTo_of_order rfl (hno _ (List.mem_singleton_self _) rfl)
  | assign items => exact h.boundTo_of_order rfl (hno _ (List.mem_singleton_self _) rfl)
  | ret value => rfl
  | other => rfl
  | fault => rfl

/-- Walking a body leaves what the tables of its scope have for a name alone if no statement that
the walk comes to in this scope binds it. -/
theorem Standing.boundTo_walkBody (body : List Stmt) {s : ScopeId} {st : Store}
    (h : Standing ctx may st s)
    (hno : ∀ v ∈ visitsIn s body st, v.scope = s → label ∉ v.stmt.bindsHere ctx) :
    ((walkBody s body st).scope s).boundTo label = (st.scope s).boundTo label := by
  match body with
  | [] => rfl
  | stmt :: rest =>
    rw [visitsIn, List.forall_mem_append] at hno
    rw [walkBody, Standing.boundTo_walkBody rest (h.after_walkStmt stmt) hno.2,
      Standing.boundTo_walkStmt stmt h hno.1]

theorem Standing.boundTo_walkControl (parts : Control) {s : ScopeId} {st : Store}
    (h : Standing ctx may st s) (htargets : label ∉ parts.targets)
    (hno : ∀ v ∈ visitsControl s parts st, v.scope = s → label ∉ v.stmt.bindsHere ctx) :
    ((walkControl s parts st).store.scope s).boundTo label = (st.scope s).boundTo label := by
  match parts with
  | .mk none _ => rfl
  | .mk (some targets) parts =>
    rw [Control.targets, List.mem_append, not_or] at htargets
    have hbind : Writes may (· ∈ targets) st
        (targets.foldl (fun st label => st.bindVar s label .unknown) st) :=
      h.free.writes_targets targets fun _ => id
    rw [walkControl, Standing.boundTo_walkParts parts (h.after hbind) htargets.2 hno,
      hbind.change.boundTo s htargets.1]

theorem Standing.boundTo_walkParts (parts : List Part) {s : ScopeId} {st : Store}
    (h : Standing ctx may st s) (htargets : label ∉ Part.targetsIn parts)
    (hno : ∀ v ∈ visitsParts s parts st, v.scope = s → label ∉ v.stmt.bindsHere ctx) :
    ((walkParts s parts st).store.scope s).boundTo label = (st.scope s).boundTo label := by
  match parts with
  | [] => rfl
  | .block body :: rest =>
    rw [Part.targetsIn] at htargets
    rw [visitsParts, List.forall_mem_append] at hno
    rw [walkParts, Standing.boundTo_walkParts rest (h.after_walkBody body) htargets hno.2,
      Standing.boundTo_walkBody body h hno.1]
  | .clause inner :: rest =>
    rw [Part.targetsIn, List.mem_append, not_or] at htargets
    rw [visitsParts, List.forall_mem_append] at hno
    have hinner := Standing.boundTo_walkControl inner h htargets.1 hno.1
    rw [walkParts]
    unfold Outcome.andThen
    -- a clause that stops is the last one
    split
    · rename_i hend
      rw [ite_cond_eq_true _ _ (eq_true hend)] at hno
      rw [Standing.boundTo_walkParts rest (h.after_walkControl inner) htargets.2 hno.2, hinner]
    · exact hinner

end

end Store

/-! ### What stands in a scope is listed -/

/-- The names of two parts, of which both must be readable. -/
theorem exists_of_bind_append {a b : Option (List Label)} {names : List Label}
    (h : (do let first ← a; let others ← b; return first ++ others) = some names) :
    ∃ first others, a = some first ∧ b = some others ∧ names = first ++ others := by
  obtain ⟨first, hfirst, h⟩ := Option.bind_eq_some_iff.mp h
  obtain ⟨others, hothers, h⟩ := Option.bind_eq_some_iff.mp h
  exact ⟨first, others, hfirst, hothers, (Option.some.inj h).symm⟩

/-- The names of a statement that a walk comes to are among given ones. -/
def Visit.ListedIn (v : Visit) (names : List Label) : Prop :=
  ∃ own, v.stmt.boundNames = some own ∧ own ⊆ names

theorem Visit.ListedIn.mono {v : Visit} {names names' : List Label} (h : v.ListedIn names)
    (hsub : names ⊆ names') : v.ListedIn names' := by
  obtain ⟨own, hown, hnames⟩ := h
  exact ⟨own, hown, fun _ hx => hsub (hnames hx)⟩

namespace Store

variable {ctx : Context} {may : ScopeId → Prop} {st : Store} {s : ScopeId}

/-- What a walk comes to inside a definition stands in another scope. -/
theorem Standing.scope_ne_of_mem_visitsIn (h : Standing ctx may st s) (className : Option String)
    (params : List Label) (body : List Stmt) :
    ∀ v ∈ visitsIn (st.addChild s className).1 body
      (bindParams (st.addChild s className).1 params (st.addChild s className).2), v.scope ≠ s := by
  intro v hv
  have hinner : Standing (((st.addChild s className).2).scope (st.addChild s className).1).context
      (Near (st.addChild s className).1 (st.addChild s className).2.scopes.length)
      (st.addChild s className).2 (st.addChild s className).1 :=
    standing_near (h.sound.addChild className h.has) (h.inner className).has
  have hnear := (Standing.of_mem_visitsIn body (hinner.after_bindParams params) v hv).here
  have hhas : s.index < st.scopes.length := h.has
  rintro rfl
  rcases hnear with e | hle
  · exact Nat.lt_irrefl _ (congrArg ScopeId.index e ▸ hhas)
  · rw [length_scopes_addChild] at hle
    omega

mutual

theorem boundNames_of_mem_visits (stmt : Stmt) {s : ScopeId} {st : Store}
    (h : Standing ctx may st s) (hdecorated : ∀ d, .decorated (.decorated d) ∉ stmt.order)
    {names : List Label} (hnames : stmt.boundNames = some names) :
    ∀ v ∈ visits s stmt st, v.scope = s → v.ListedIn names := by
  have hself : Visit.ListedIn ⟨s, stmt, st⟩ names := ⟨names, hnames, fun _ => id⟩
  -- on the statement; what is inside a definition stands in another scope
  cases stmt with
  | function name params body =>
    cases params with
    | none => exact List.forall_mem_singleton.mpr fun _ => hself
    | some params =>
      rw [visits, List.forall_mem_cons]
      refine ⟨fun _ => hself, fun v hv hscope => ?_⟩
      exact absurd hscope (h.scope_ne_of_mem_visitsIn none params body v hv)
  | classDef name bases body =>
    rw [visits, List.forall_mem_cons]
    refine ⟨fun _ => hself, fun v hv hscope => ?_⟩
    exact absurd hscope (h.scope_ne_of_mem_visitsIn (some name) [] body v hv)
  | decorated definition =>
    rw [Stmt.order] at hdecorated
    have hinner : definition.boundNames = some names := by
      unfold Stmt.boundNames at hnames
      split at hnames
      · rename_i d
        exact absurd (List.mem_cons_self ..) (hdecorated d)
      · exact hnames
    rw [visits, List.forall_mem_cons]
    refine ⟨fun _ => hself, boundNames_of_mem_visits definition h ?_ hinner⟩
    exact fun d hd => hdecorated d (List.mem_cons_of_mem _ hd)
  | control parts =>
    rw [Stmt.order] at hdecorated
    rw [visits, List.forall_mem_cons]
    refine ⟨fun _ => hself, boundNames_of_mem_visitsControl parts h ?_ hnames⟩
    exact fun d hd => hdecorated d (List.mem_cons_of_mem _ hd)
  | importNames items => exact List.forall_mem_singleton.mpr fun _ => hself
  | importFrom source wildcard items => exact List.forall_mem_singleton.mpr fun _ => hself
  | assign items => exact List.forall_mem_singleton.mpr fun _ => hself
  | ret value => exact List.forall_mem_singleton.mpr fun _ => hself
  | other => exact List.forall_mem_singleton.mpr fun _ => hself
  | fault => exact List.forall_mem_singleton.mpr fun _ => hself

/-- The names of a statement that a walk comes to in the scope of the body are among those of the
body, at whatever depth of control statements it is. -/
theorem boundNames_of_mem_visitsIn (body : List Stmt) {s : ScopeId} {st : Store}
    (h : Standing ctx may st s) (hdecorated : ∀ d, .decorated (.decorated d) ∉ Stmt.orderIn body)
    {names : List Label} (hnames : Stmt.bodyNames body = some names) :
    ∀ v ∈ visitsIn s body st, v.scope = s → v.ListedIn names := by
  match body with
  | [] => simp [visitsIn]
  | stmt :: rest =>
    rw [Stmt.bodyNames] at hnames
    obtain ⟨first, others, hfirst, hothers, rfl⟩ := exists_of_bind_append hnames
    rw [Stmt.orderIn] at hdecorated
    rw [visitsIn, List.forall_mem_append]
    refine ⟨fun v hv hscope => ?_, fun v hv hscope => ?_⟩
    · exact (boundNames_of_mem_visits stmt h
        (fun d hd => hdecorated d (List.mem_append_left _ hd)) hfirst v hv hscope).mono
          (List.subset_append_left ..)
    · exact (boundNames_of_mem_visitsIn rest (h.after_walkStmt stmt)
        (fun d hd => hdecorated d (List.mem_append_right _ hd)) hothers v hv hscope).mono
          (List.subset_append_right ..)

theorem boundNames_of_mem_visitsControl (parts : Control) {s : ScopeId} {st : Store}
    (h : Standing ctx may st s) (hdecorated : ∀ d, .decorated (.decorated d) ∉ parts.order)
    {names : List Label} (hnames : Stmt.controlNames parts = some names) :
    ∀ v ∈ visitsControl s parts st, v.scope = s → v.ListedIn names := by
  match parts with
  | .mk none _ => simp [visitsControl]
  | .mk (some targets) parts =>
    exact boundNames_of_mem_visitsParts parts (h.after_targets targets) hdecorated hnames

theorem boundNames_of_mem_visitsParts (parts : List Part) {s : ScopeId} {st : Store}
    (h : Standing ctx may st s) (hdecorated : ∀ d, .decorated (.decorated d) ∉ Part.orderIn parts)
    {names : List Label} (hnames : Stmt.partNames parts = some names) :
    ∀ v ∈ visitsParts s parts st, v.scope = s → v.ListedIn names := by
  match parts with
  | [] => simp [visitsParts]
  | .block body :: rest =>
    rw [Stmt.partNames] at hnames
    obtain ⟨first, others, hfirst, hothers, rfl⟩ := exists_of_bind_append hnames
    rw [Part.orderIn] at hdecorated
    rw [visitsParts, List.forall_mem_append]
    refine ⟨fun v hv hscope => ?_, fun v hv hscope => ?_⟩
    · exact (boundNames_of_mem_visitsIn body h
        (fun d hd => hdecorated d (List.mem_append_left _ hd)) hfirst v hv hscope).mono
          (List.subset_append_left ..)
    · exact (boundNames_of_mem_visitsParts rest (h.after_walkBody body)
        (fun d hd => hdecorated d (List.mem_append_right _ hd)) hothers v hv hscope).mono
          (List.subset_append_right ..)
  | .clause inner :: rest =>
    rw [Stmt.partNames] at hnames
    obtain ⟨first, others, hfirst, hothers, rfl⟩ := exists_of_bind_append hnames
    rw [Part.orderIn] at hdecorated
    rw [visitsParts, List.forall_mem_append]
    refine ⟨fun v hv hscope => ?_, ?_⟩
    · exact (boundNames_of_mem_visitsControl inner h
        (fun d hd => hdecorated d (List.mem_append_left _ hd)) hfirst v hv hscope).mono
          (List.subset_append_left ..)
    · split
      · intro v hv hscope
        exact (boundNames_of_mem_visitsParts rest (h.after_walkControl inner)
          (fun d hd => hdecorated d (List.mem_append_right _ hd)) hothers v hv hscope).mono
            (List.subset_append_right ..)
      · simp

end

end Store

/-! ### Readable statements have names -/

theorem ImportItem.exists_boundName (first : Bool) {item : ImportItem}
    (h : item.readable = true) : ∃ label, item.boundName first = some label := by
  cases item with
  | plain name => exact ⟨_, rfl⟩
  | renamed name newName => exact ⟨_, rfl⟩
  | fault => simp [readable] at h

theorem Assignment.exists_boundNames {item : Assignment} (h : item.readable = true) :
    ∃ names, item.boundNames = some names := by
  cases item with
  | mk targets value => exact ⟨_, rfl⟩
  | fault => simp [readable] at h

namespace Stmt

mutual

theorem exists_boundNames (stmt : Stmt) (h : stmt.readable = true) :
    ∃ names, stmt.boundNames = some names := by
  cases stmt with
  | importNames items =>
    rw [readable, List.all_eq_true] at h
    exact exists_mapM_eq_some fun item hitem => ImportItem.exists_boundName true (h item hitem)
  | importFrom source wildcard items =>
    rw [readable, Bool.and_eq_true, List.all_eq_true] at h
    exact exists_mapM_eq_some fun item hitem => ImportItem.exists_boundName false (h.2 item hitem)
  | assign items =>
    rw [readable, List.all_eq_true] at h
    obtain ⟨each, heach⟩ := exists_mapM_eq_some (f := Assignment.boundNames)
      fun item hitem => Assignment.exists_boundNames (h item hitem)
    exact ⟨each.flatten, by rw [boundNames, heach]; rfl⟩
  | function name params body => exact ⟨_, rfl⟩
  | classDef name bases body => exact ⟨_, rfl⟩
  | decorated definition =>
    unfold boundNames
    split
    · exact ⟨_, rfl⟩
    · exact exists_boundNames definition h
  | control parts => exact exists_controlNames parts h
  | ret value => exact ⟨_, rfl⟩
  | other => exact ⟨_, rfl⟩
  | fault => simp [readable] at h

/-- The names of readable statements can be told. -/
theorem exists_bodyNames (body : List Stmt) (h : allReadable body = true) :
    ∃ names, bodyNames body = some names := by
  match body with
  | [] => exact ⟨_, rfl⟩
  | stmt :: rest =>
    rw [allReadable, Bool.and_eq_true] at h
    obtain ⟨first, hfirst⟩ := exists_boundNames stmt h.1
    obtain ⟨others, hothers⟩ := exists_bodyNames rest h.2
    exact ⟨first ++ others, by rw [bodyNames, hfirst, hothers]; rfl⟩

theorem exists_controlNames (parts : Control) (h : parts.readable = true) :
    ∃ names, controlNames parts = some names := by
  match parts with
  | .mk targets parts =>
    rw [Control.readable, Bool.and_eq_true] at h
    exact exists_partNames parts h.2

theorem exists_partNames (parts : List Part) (h : Part.allReadable parts = true) :
    ∃ names, partNames parts = some names := by
  match parts with
  | [] => exact ⟨_, rfl⟩
  | .block body :: rest =>
    rw [Part.allReadable, Bool.and_eq_true] at h
    obtain ⟨first, hfirst⟩ := exists_bodyNames body h.1
    obtain ⟨others, hothers⟩ := exists_partNames rest h.2
    exact ⟨first ++ others, by rw [partNames, hfirst, hothers]; rfl⟩
  | .clause inner :: rest =>
    rw [Part.allReadable, Bool.and_eq_true] at h
    obtain ⟨first, hfirst⟩ := exists_controlNames inner h.1
    obtain ⟨others, hothers⟩ := exists_partNames rest h.2
    exact ⟨first ++ others, by rw [partNames, hfirst, hothers]; rfl⟩

end

/-- What is listed of a module: each name once, and none without text. -/
theorem mem_topLevelNames {body : List Stmt} {names : List String}
    (h : topLevelNames body = some names) :
    ∃ labels, bodyNames body = some labels ∧ names.Nodup ∧
      ∀ n, n ∈ names ↔ some n ∈ labels ∧ n ≠ "" := by
  obtain ⟨labels, hlabels, rfl⟩ := Option.map_eq_some_iff.mp h
  refine ⟨labels, hlabels, by simpa using nodup_firstBy_keys id _, fun n => ?_⟩
  have hkeys := mem_firstBy_keys id
    (labels.filterMap fun label : Label => label.filter (· ≠ "")) n
  rw [List.map_id, List.map_id] at hkeys
  rw [hkeys, List.mem_filterMap]
  constructor
  · rintro ⟨label, hlabel, hfilter⟩
    rw [Option.filter_eq_some_iff] at hfilter
    exact ⟨hfilter.1 ▸ hlabel, by simpa using hfilter.2⟩
  · rintro ⟨hmem, hne⟩
    exact ⟨some n, hmem, Option.filter_eq_some_iff.mpr ⟨rfl, by simpa using hne⟩⟩

end Stmt

/-! ### What a module binds -/

/-- A statement can bind a name: where it may stand, there is a scope whose tables have something
else for the name once the statement is walked there. -/
def Stmt.CanBind (ctx : Context) (stmt : Stmt) (label : Label) : Prop :=
  ∃ st s, Store.Standing ctx (fun _ => True) st s ∧
    ((Store.walkStmt s stmt st).store.scope s).boundTo label ≠ (st.scope s).boundTo label

/-- A statement that a walk comes to binds a name that is not listed: a loop its target, or
`from … import *` a member of the module. -/
def Visit.BindsUnlisted (ctx : Context) (v : Visit) (name : String) : Prop :=
  (∃ parts, v.stmt = .control parts ∧ some name ∈ parts.targets) ∨
  ∃ text items, v.stmt = .importFrom (some (some text)) true items ∧
    name ∈ (ctx.moduleMembers (Text.dropLeading '.' text)).getD []

namespace Store

variable {ctx : Context}

/-- A statement that binds names of its own binds no others where it stands. -/
theorem mem_bindsHere_of_canBind {stmt : Stmt} (hnaming : stmt.isNaming = true) {label : Label}
    (h : stmt.CanBind ctx label) : label ∈ stmt.bindsHere ctx := by
  obtain ⟨st, s, hs, hne⟩ := h
  by_contra hno
  refine hne (Standing.boundTo_walkStmt stmt hs ?_)
  -- what is inside such a statement does not stand in its scope
  cases stmt with
  | function name params body =>
    cases params with
    | none => exact List.forall_mem_singleton.mpr fun _ => hno
    | some params =>
      rw [visits, List.forall_mem_cons]
      refine ⟨fun _ => hno, fun v hv hscope => ?_⟩
      exact absurd hscope (hs.scope_ne_of_mem_visitsIn none params body v hv)
  | classDef name bases body =>
    rw [visits, List.forall_mem_cons]
    refine ⟨fun _ => hno, fun v hv hscope => ?_⟩
    exact absurd hscope (hs.scope_ne_of_mem_visitsIn (some name) [] body v hv)
  | importNames items => exact List.forall_mem_singleton.mpr fun _ => hno
  | importFrom source wildcard items => exact List.forall_mem_singleton.mpr fun _ => hno
  | assign items => exact List.forall_mem_singleton.mpr fun _ => hno
  | decorated definition => simp [Stmt.isNaming] at hnaming
  | control parts => simp [Stmt.isNaming] at hnaming
  | ret value => simp [Stmt.isNaming] at hnaming
  | other => simp [Stmt.isNaming] at hnaming
  | fault => simp [Stmt.isNaming] at hnaming

/-- A statement that binds a name where it stands binds names of its own, or what is not listed. -/
theorem isNaming_or_bindsUnlisted {v : Visit} {name : String}
    (h : some name ∈ v.stmt.bindsHere ctx) :
    v.stmt.isNaming = true ∨ v.BindsUnlisted ctx name := by
  obtain ⟨s, stmt, st⟩ := v
  cases stmt with
  | importNames items => exact .inl rfl
  | importFrom source wildcard items =>
    cases wildcard with
    | false => exact .inl rfl
    | true =>
      match source with
      | none => simp [Stmt.bindsHere, Stmt.binds] at h
      | some none => simp [Stmt.bindsHere, Stmt.binds] at h
      | some (some text) =>
        obtain ⟨member, hmember, e⟩ := List.mem_map.mp h
        exact .inr (.inr ⟨text, items, rfl, Option.some.inj e ▸ hmember⟩)
  | assign items => exact .inl rfl
  | function name params body => exact .inl rfl
  | classDef name bases body => exact .inl rfl
  | control parts => exact .inr (.inl ⟨parts, rfl, h⟩)
  | decorated definition => simp [Stmt.bindsHere, Stmt.binds] at h
  | ret value => simp [Stmt.bindsHere, Stmt.binds] at h
  | other => simp [Stmt.bindsHere, Stmt.binds] at h
  | fault => simp [Stmt.bindsHere, Stmt.binds] at h

end Store

namespace Analysis

open Store

/-- **Whatever a module binds is among the names that are read off it.**  Take readable statements
in which what is decorated is not decorated itself, such as a function or a class.  Their names can
be told; each is listed once, and none is without text.  Whatever an import, an assignment, a
function or a class can bind that stands in the outermost scope, at any depth of control statements,
is listed.  So every variable and every import that the outermost scope has in the end is listed,
unless it is the target of a loop or comes from `from … import *`. -/
theorem topLevelNames_complete (ctx : Context) {body : List Stmt}
    (hread : Stmt.allReadable body = true)
    (hdecorated : ∀ d, .decorated (.decorated d) ∉ Stmt.orderIn body) :
    let root := (empty ctx).root
    ∃ names, Stmt.topLevelNames body = some names ∧ names.Nodup ∧ "" ∉ names ∧
      (∀ v ∈ visitsIn root body (empty ctx).store, v.scope = root → v.stmt.isNaming = true →
        ∀ n, n ≠ "" → v.stmt.CanBind ctx (some n) → n ∈ names) ∧
      ∀ n, n ≠ "" →
        ((ofStatements ctx body).store.scope root).boundTo (some n) ≠ (none, none) →
        n ∈ names ∨
          ∃ v ∈ visitsIn root body (empty ctx).store, v.scope = root ∧ v.BindsUnlisted ctx n := by
  intro root
  have hstand : Standing ctx (fun _ => True) (empty ctx).store root :=
    standing_empty ctx fun _ => trivial
  obtain ⟨labels, hlabels⟩ := Stmt.exists_bodyNames body hread
  obtain ⟨names, hnames⟩ : ∃ names, Stmt.topLevelNames body = some names :=
    ⟨_, by rw [Stmt.topLevelNames, hlabels]; rfl⟩
  obtain ⟨labels', hlabels', hnodup, hmem⟩ := Stmt.mem_topLevelNames hnames
  obtain rfl : labels = labels' := Option.some.inj (hlabels.symm.trans hlabels')
  -- a name that a naming statement of the outermost scope binds is listed
  have hlisted : ∀ v ∈ visitsIn root body (empty ctx).store, v.scope = root →
      v.stmt.isNaming = true → ∀ n, n ≠ "" → some n ∈ v.stmt.bindsHere ctx → n ∈ names := by
    intro v hv hscope hnaming n hne hbinds
    obtain ⟨own, hown, hsub⟩ :=
      boundNames_of_mem_visitsIn body hstand hdecorated hlabels v hv hscope
    exact (hmem n).mpr ⟨hsub (Stmt.mem_boundNames hnaming hown hbinds), hne⟩
  refine ⟨names, hnames, hnodup, ?_, ?_, ?_⟩
  · intro hempty
    exact ((hmem "").mp hempty).2 rfl
  · intro v hv hscope hnaming n hne hcan
    exact hlisted v hv hscope hnaming n hne (mem_bindsHere_of_canBind hnaming hcan)
  · intro n hne hbound
    -- nothing is bound at first, so a statement of this scope binds it
    obtain ⟨v, hv, hscope, hbinds⟩ : ∃ v ∈ visitsIn root body (empty ctx).store,
        v.scope = root ∧ some n ∈ v.stmt.bindsHere ctx := by
      by_contra hno
      refine hbound (Standing.boundTo_walkBody body hstand ?_)
      intro v hv hscope hbinds
      exact hno ⟨v, hv, hscope, hbinds⟩
    rcases isNaming_or_bindsUnlisted hbinds with hnaming | hunlisted
    · exact .inl (hlisted v hv hscope hnaming n hne hbinds)
    · exact .inr ⟨v, hv, hscope, hunlisted⟩

/-- A module with a dotted import, a loop that takes a pair apart, and a decorated function. -/
def loopModule : List Stmt :=
  [ .importNames [.plain (some "os.path")],
    .control (.mk (some [some "i"])
      [.block [.assign [.mk [.group [.name (some "a"), .name (some "b")]]
        (some (.sequence [.integer, .text]))]]]),
    .decorated (.function "f" (some []) []) ]

/-- The target of its loop is bound, but not listed. -/
theorem topLevelNames_complete_loop :
    Stmt.allReadable loopModule = true ∧
    Stmt.topLevelNames loopModule = some ["os", "a", "b", "f"] ∧
    ∃ v ∈ visitsIn (empty {}).root loopModule (empty {}).store,
      v.scope = (empty {}).root ∧ v.BindsUnlisted {} "i" := by
  have hread : Stmt.allReadable loopModule = true := by decide
  have hlist : Stmt.topLevelNames loopModule = some ["os", "a", "b", "f"] := by decide +kernel
  have hdecorated : ∀ d, .decorated (.decorated d) ∉ Stmt.orderIn loopModule := by
    intro d hd
    simp [loopModule, Stmt.orderIn, Stmt.order, Control.order, Part.orderIn] at hd
  obtain ⟨names, hnames, -, -, -, hall⟩ := topLevelNames_complete {} hread hdecorated
  have hbound : ((ofStatements {} loopModule).store.scope (empty {}).root).boundTo (some "i") ≠
      (none, none) := by decide +kernel
  refine ⟨hread, hlist, ?_⟩
  rcases hall "i" (by decide) hbound with hmem | hunlisted
  · rw [← Option.some.inj (hlist.symm.trans hnames)] at hmem
    exact absurd hmem (by decide)
  · exact hunlisted

end Analysis

end ScriptScope
