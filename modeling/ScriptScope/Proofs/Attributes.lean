import ScriptScope.Proofs.Growth

/-!
# Attributes that methods assign

A method registers the attributes that it assigns, as in `self.x = 1`, with the placeholder that its
first parameter is bound to.  Unless the method binds the parameter anew, it is bound to this
placeholder as long as the method is walked, so every attribute that the text assigns through it is
registered (`Standing.registered_walkBody`), and it stays registered.

The class gets these attributes when it ends, if it still has the method and the method still has
its receiver.  It may have lost either: another definition of the same name takes the place of the
method, and a class in the body that uses the method takes its receiver
(`walkStmt_classDef_attributes`).
-/

namespace ScriptScope

/-! ### Attributes in the text -/

/-- The attribute that a target `p.a` names. -/
def Pattern.attributeOf? (p : Label) : Pattern → Option String
  | .member root [some a] => if root = p then some a else none
  | _ => none

theorem Pattern.attributeOf?_eq_some {p : Label} {target : Pattern} {a : String}
    (h : target.attributeOf? p = some a) : target = .member p [some a] := by
  unfold attributeOf? at h
  split at h
  · rw [Option.ite_none_right_eq_some, Option.some.injEq] at h
    rw [h.1, h.2]
  · simp at h

/-- The attributes of a name that an assignment assigns: `p.a = value`. -/
def Assignment.attributes (p : Label) : Assignment → List String
  | .mk targets (some _) => targets.filterMap (Pattern.attributeOf? p)
  | .mk _ none | .fault => []

mutual

/-- The attributes of a name that a statement assigns in the scope it stands in. -/
def Stmt.attributes (p : Label) : Stmt → List String
  | .assign items => items.flatMap (Assignment.attributes p)
  | .decorated definition => definition.attributes p
  | .control parts => parts.attributes p
  | .importNames _ | .importFrom _ _ _ | .function _ _ _ | .classDef _ _ _ | .ret _ | .other
  | .fault => []

/-- The attributes of a name that the statements of a body assign. -/
def Stmt.attributesIn (p : Label) : List Stmt → List String
  | [] => []
  | stmt :: rest => stmt.attributes p ++ Stmt.attributesIn p rest

/-- The attributes of a name that are assigned in the blocks of a control statement. -/
def Control.attributes (p : Label) : Control → List String
  | .mk _ parts => Part.attributesIn p parts

/-- The attributes of a name that are assigned in the parts of a control statement. -/
def Part.attributesIn (p : Label) : List Part → List String
  | [] => []
  | .block body :: rest => Stmt.attributesIn p body ++ Part.attributesIn p rest
  | .clause inner :: rest => inner.attributes p ++ Part.attributesIn p rest

end

namespace Store

variable {ctx : Context} {st st' : Store} {s : ScopeId} {p : Label} {r : ClassId}

/-! ### Variables that a walk does not bind -/

theorem vars_eachInTurn {α : Type} {step : α → Store → Outcome}
    (hstep : ∀ a st t, ((step a st).store.scope t).vars = (st.scope t).vars) (items : List α)
    (st : Store) (t : ScopeId) :
    ((eachInTurn step items st).store.scope t).vars = (st.scope t).vars := by
  induction items generalizing st with
  | nil => rfl
  | cons a rest ih =>
    unfold eachInTurn Outcome.andThen
    split
    · rw [ih, hstep]
    · exact hstep a st t

/-- Imports are no variables. -/
theorem vars_importNames (items : List ImportItem) (st : Store) (t : ScopeId) :
    ((walkStmt s (.importNames items) st).store.scope t).vars = (st.scope t).vars := by
  rw [walkStmt]
  refine vars_eachInTurn (fun item st t => ?_) items st t
  unfold importName
  split <;> simp [Outcome.done, Outcome.stopped]

theorem vars_importAll (source : String) (st : Store) (t : ScopeId) :
    ((st.importAll s source).scope t).vars = (st.scope t).vars := by
  unfold importAll
  generalize ((st.scope s).context.moduleMembers source).getD [] = found
  induction found generalizing st with
  | nil => rfl
  | cons name rest ih => rw [List.foldl_cons, ih, vars_bindImport]

theorem vars_importFrom (source : Option Label) (wildcard : Bool) (items : List ImportItem)
    (st : Store) (t : ScopeId) :
    ((walkStmt s (.importFrom source wildcard items) st).store.scope t).vars =
      (st.scope t).vars := by
  match source, wildcard with
  | none, _ => rfl
  | some none, _ => rfl
  | some (some text), true => exact vars_importAll _ st t
  | some (some text), false =>
    refine vars_eachInTurn (fun item st t => ?_) items st t
    unfold importFrom
    split <;> simp [Outcome.done, Outcome.stopped]

/-- What a definition does in its own scope leaves the variables outside alone. -/
theorem Standing.vars_innerWalk (h : Standing ctx (fun _ => True) st s) (className : Option String)
    (params : List Label) (body : List Stmt) :
    ((st.innerWalk s className params body).scope s).vars = (st.scope s).vars :=
  (tables_innerWalk h.sound h.has className params body).1

mutual

theorem Standing.get?_walkStmt (stmt : Stmt) {s : ScopeId} {st : Store}
    (h : Standing ctx (fun _ => True) st s) (hno : p ∉ stmt.locals) :
    ((walkStmt s stmt st).store.scope s).vars.get? p = (st.scope s).vars.get? p := by
  -- on the statement; a definition binds its own name outside and nothing else
  cases stmt with
  | importNames items => rw [vars_importNames]
  | importFrom source wildcard items => rw [vars_importFrom]
  | assign items =>
    have hwrites : Writes (fun _ => True) (· ∈ items.flatMap Assignment.bound) st
        (walkStmt s (.assign items) st).store :=
      h.writes_walkStmt fun x hx label hlabel => by
        rw [List.mem_singleton.mp hx] at hlabel
        exact hlabel
    exact hwrites.change.vars s p hno
  | function name params body =>
    cases params with
    | none =>
      rw [walkStmt]
      exact congrArg (Bindings.get? · p) (tables_addChild none h.has s).1
    | some params =>
      have hend : Writes (fun _ => True) (· = some name) (st.innerWalk s none params body)
          (walkStmt s (.function name (some params) body) st).store :=
        (h.after_innerWalk none params body).free.writes_functionEnd
          (h.hasScope_innerWalk none params body) rfl (Visit.meets_free _)
      rw [hend.change.vars s p fun e => hno (List.mem_singleton.mpr e), h.vars_innerWalk]
  | classDef name bases body =>
    have hend : Writes (fun _ => True) (· = some name) (st.innerWalk s (some name) [] body)
        (walkStmt s (.classDef name bases body) st).store :=
      (h.after_innerWalk (some name) [] body).free.writes_classEnd
        (h.hasScope_innerWalk (some name) [] body) rfl (Visit.meets_free _)
    rw [hend.change.vars s p fun e => hno (List.mem_singleton.mpr e), h.vars_innerWalk]
  | decorated definition =>
    rw [walkStmt]
    exact Standing.get?_walkStmt definition h hno
  | control parts =>
    rw [walkStmt]
    exact Standing.get?_walkControl parts h hno
  | ret value => rfl
  | other => rfl
  | fault => rfl

/-- Walking a body leaves a variable of its scope alone if none of its statements binds it there. -/
theorem Standing.get?_walkBody (body : List Stmt) {s : ScopeId} {st : Store}
    (h : Standing ctx (fun _ => True) st s) (hno : p ∉ Stmt.localsIn body) :
    ((walkBody s body st).scope s).vars.get? p = (st.scope s).vars.get? p := by
  match body with
  | [] => rfl
  | stmt :: rest =>
    rw [Stmt.localsIn, List.mem_append, not_or] at hno
    rw [walkBody, Standing.get?_walkBody rest (h.after_walkStmt stmt) hno.2,
      Standing.get?_walkStmt stmt h hno.1]

theorem Standing.get?_walkControl (parts : Control) {s : ScopeId} {st : Store}
    (h : Standing ctx (fun _ => True) st s) (hno : p ∉ parts.locals) :
    ((walkControl s parts st).store.scope s).vars.get? p = (st.scope s).vars.get? p := by
  match parts with
  | .mk none _ => rfl
  | .mk (some targets) parts =>
    rw [Control.locals, List.mem_append, not_or] at hno
    have hbind : Writes (fun _ => True) (· ∈ targets) st
        (targets.foldl (fun st label => st.bindVar s label .unknown) st) :=
      h.free.writes_targets targets fun _ => id
    rw [walkControl, Standing.get?_walkParts parts (h.after_targets targets) hno.2,
      hbind.change.vars s p hno.1]

theorem Standing.get?_walkParts (parts : List Part) {s : ScopeId} {st : Store}
    (h : Standing ctx (fun _ => True) st s) (hno : p ∉ Part.localsIn parts) :
    ((walkParts s parts st).store.scope s).vars.get? p = (st.scope s).vars.get? p := by
  match parts with
  | [] => rfl
  | .block body :: rest =>
    rw [Part.localsIn, List.mem_append, not_or] at hno
    rw [walkParts, Standing.get?_walkParts rest (h.after_walkBody body) hno.2,
      Standing.get?_walkBody body h hno.1]
  | .clause inner :: rest =>
    rw [Part.localsIn, List.mem_append, not_or] at hno
    rw [walkParts]
    unfold Outcome.andThen
    split
    · rw [Standing.get?_walkParts rest (h.after_walkControl inner) hno.2,
        Standing.get?_walkControl inner h hno.1]
    · exact Standing.get?_walkControl inner h hno.1

end

/-! ### Attributes are registered -/

/-- All of the attributes are members of the class. -/
def Registered (st : Store) (r : ClassId) (attributes : List String) : Prop :=
  ∀ a ∈ attributes, some a ∈ (st.cls r).members

theorem Registered.append {xs ys : List String} (hx : st.Registered r xs)
    (hy : st.Registered r ys) : st.Registered r (xs ++ ys) :=
  List.forall_mem_append.mpr ⟨hx, hy⟩

/-- What is registered stays registered. -/
theorem Registered.mono {may : ScopeId → Prop} {names : Label → Prop} {terms : Terms}
    {attributes : List String} (h : st.Registered r attributes) (hr : st.HasClass r)
    (w : WritesOn may names terms st st') : st'.Registered r attributes :=
  fun a ha => (w.growth.members r hr).subset (h a ha)

/-- A variable of a scope is found there. -/
theorem find_of_get? (hst : st.Sound) (hs : st.HasScope s) {d : Descriptor}
    (h : (st.scope s).vars.get? p = some d) : st.find s p = .held d := by
  refine find_of_binding? ?_
  unfold binding?
  rw [chain_eq hst hs, List.findSome?_cons, ScopeInfo.lookup?, h]
  rfl

/-- What a variable is bound to is a class of the store if it is a class. -/
theorem Standing.hasClass_of_get? {may : ScopeId → Prop} (h : Standing ctx may st s)
    (hbound : (st.scope s).vars.get? p = some (.script r)) : st.HasClass r :=
  (h.sound.vars s).holds_of_get? hbound

theorem registerPath_singleton (r : ClassId) (a : String) (st : Store) :
    registerPath (.held (.script r)) [some a] st = st.modifyClass r (·.put (some a)) := by
  unfold registerPath
  dsimp only
  split <;> rfl

theorem registered_registerPath (hr : st.HasClass r) (a : String) :
    (registerPath (.held (.script r)) [some a] st).Registered r [a] := by
  intro b hb
  rw [registerPath_singleton, cls_modifyClass_self st _ hr, ClassInfo.members_put, mem_addNew]
  exact .inr (List.mem_singleton.mpr (congrArg some (List.mem_singleton.mp hb)))

/-- What the first target of an assignment does before the others have their turn: it binds what it
assigns, and a target `root.path` registers its path. -/
theorem Standing.bindTargets_cons (h : Standing ctx (fun _ => True) st s) {value : Expr}
    (hvalue : value.readable = true) {target : Pattern} (htarget : target.readable = true)
    {known : Option Descriptor} (hknown : ∀ d, known = some d → st.Admits .free (.held d))
    (rest : List Pattern) :
    ∃ known' st', bindTargets s value known (target :: rest) st =
        bindTargets s value known' rest st' ∧
      Writes (fun _ => True) (· ∈ target.assigned value) st st' ∧
      (∀ d, known' = some d → st'.Admits .free (.held d)) ∧
      ∀ root path, target = .member root path → st' = registerPath (st.find s root) path st := by
  cases target with
  | name label =>
    have hlabel : label ∈ (Pattern.name label).assigned value := List.mem_singleton_self label
    cases known with
    | some d =>
      have hbind : Writes (fun _ => True) (· ∈ (Pattern.name label).assigned value) st
          (st.bindVar s label d) := h.free.writes_bindVar hlabel (hknown d rfl)
      exact ⟨some d, _, by rw [bindTargets], hbind, fun d' e => (hknown d' e).after hbind.change,
        by simp⟩
    | none =>
      obtain ⟨v, hv⟩ := exists_infer st s hvalue
      have hadmits := h.free.admits_infer hv
      have hhold : Writes (fun _ => True) (· ∈ (Pattern.name label).assigned value) st
          (st.hold v).2 := writes_hold hadmits
      have hbind : Writes (fun _ => True) (· ∈ (Pattern.name label).assigned value)
          (st.hold v).2 (st.assign s label v) :=
        (h.after hhold).free.writes_bindVar hlabel (admits_hold hadmits)
      refine ⟨some (st.hold v).1, st.assign s label v, ?_, hhold.trans hbind, ?_, by simp⟩
      · conv_lhs => unfold bindTargets
        dsimp only
        rw [hv]
        rfl
      · intro d e
        rw [← Option.some.inj e]
        exact (admits_hold hadmits).after hbind.change
  | group items =>
    have hfirst : Writes (fun _ => True) (· ∈ (Pattern.group items).assigned value) st
        (destructure s (.group items) value st).store :=
      Keeping.writes_destructure (.group items) value h.free fun _ => id
    refine ⟨known, _, ?_, hfirst, fun d e => (hknown d e).after hfirst.change, by simp⟩
    rw [bindTargets, andThen_of_completed (completed_destructure s _ hvalue st)]
  | member root path =>
    have hfirst : Writes (fun _ => True) (· ∈ (Pattern.member root path).assigned value) st
        (registerPath (st.find s root) path st) := writes_registerPath _ _ _
    refine ⟨known, _, by rw [bindTargets], hfirst, fun d e => (hknown d e).after hfirst.change, ?_⟩
    rintro _ _ ⟨⟩
    rfl
  | splat items => exact ⟨known, st, rfl, .refl, hknown, by simp⟩
  | other => exact ⟨known, st, rfl, .refl, hknown, by simp⟩
  | fault => simp [Pattern.readable] at htarget

/-- The targets of an assignment register the attributes among them. -/
theorem Standing.registered_bindTargets {value : Expr} (hvalue : value.readable = true)
    (targets : List Pattern) {known : Option Descriptor} {st : Store}
    (h : Standing ctx (fun _ => True) st s) (htargets : Pattern.allReadable targets = true)
    (hknown : ∀ d, known = some d → st.Admits .free (.held d))
    (hbound : (st.scope s).vars.get? p = some (.script r))
    (hno : p ∉ targets.flatMap (Pattern.assigned value)) :
    (bindTargets s value known targets st).store.Registered r
      (targets.filterMap (Pattern.attributeOf? p)) := by
  induction targets generalizing st known with
  | nil => simp [Registered]
  | cons target rest ih =>
    rw [Pattern.allReadable, Bool.and_eq_true] at htargets
    rw [List.flatMap_cons, List.mem_append, not_or] at hno
    obtain ⟨known', st', heq, hwrites, hknown', hmember⟩ :=
      h.bindTargets_cons hvalue htargets.1 hknown rest
    have hnext := h.after hwrites
    have hbound' : (st'.scope s).vars.get? p = some (.script r) :=
      (hwrites.change.vars s p hno.1).trans hbound
    have hrest := ih hnext htargets.2 hknown' hbound' hno.2
    rw [heq]
    cases hattribute : target.attributeOf? p with
    | none => rwa [List.filterMap_cons_none hattribute]
    | some a =>
      rw [List.filterMap_cons_some hattribute]
      have hregistered : st'.Registered r [a] := by
        rw [hmember _ _ (Pattern.attributeOf?_eq_some hattribute),
          find_of_get? h.sound h.has hbound]
        exact registered_registerPath (h.hasClass_of_get? hbound) a
      have hwrites' : Writes (fun _ => True) (fun _ => True) st'
          (bindTargets s value known' rest st').store :=
        Keeping.writes_bindTargets value known' rest hnext.free (fun _ _ => trivial) hknown'
      exact (hregistered.mono (hnext.hasClass_of_get? hbound') hwrites').append hrest

theorem Standing.registered_walkAssignment {item : Assignment} (hread : item.readable = true)
    (h : Standing ctx (fun _ => True) st s)
    (hbound : (st.scope s).vars.get? p = some (.script r)) (hno : p ∉ item.bound) :
    (walkAssignment s item st).store.Registered r (item.attributes p) := by
  match item with
  | .fault => simp [Registered, Assignment.attributes]
  | .mk targets none => simp [Registered, Assignment.attributes]
  | .mk targets (some value) =>
    rw [Assignment.readable, Bool.and_eq_true] at hread
    exact Standing.registered_bindTargets hread.2 targets h hread.1 (by simp) hbound hno

/-- The assignments of a statement register their attributes one after the other. -/
theorem Standing.registered_assign (items : List Assignment) {st : Store}
    (h : Standing ctx (fun _ => True) st s) (hread : (Stmt.assign items).readable = true)
    (hbound : (st.scope s).vars.get? p = some (.script r)) (hno : p ∉ (Stmt.assign items).locals) :
    (walkStmt s (.assign items) st).store.Registered r ((Stmt.assign items).attributes p) := by
  induction items generalizing st with
  | nil => simp [Registered, Stmt.attributes]
  | cons item rest ih =>
    rw [Stmt.readable, List.all_cons, Bool.and_eq_true] at hread
    rw [Stmt.locals, List.flatMap_cons, List.mem_append, not_or] at hno
    have hfirst : Writes (fun _ => True) (· ∈ item.bound) st (walkAssignment s item st).store :=
      h.free.writes_walkAssignment item fun _ => id
    have hnext := h.after hfirst
    have hbound' : ((walkAssignment s item st).store.scope s).vars.get? p = some (.script r) :=
      (hfirst.change.vars s p hno.1).trans hbound
    have hregistered := Standing.registered_walkAssignment hread.1 h hbound hno.1
    have hrest := ih hnext (by rw [Stmt.readable]; exact hread.2) hbound' hno.2
    have hwrites : Writes (fun _ => True) (fun _ => True) (walkAssignment s item st).store
        (walkStmt s (.assign rest) (walkAssignment s item st).store).store :=
      hnext.writes_walkStmt fun _ _ _ _ => trivial
    rw [walkStmt, eachInTurn, andThen_of_completed (completed_walkAssignment s hread.1 st)]
    exact (hregistered.mono (hnext.hasClass_of_get? hbound') hwrites).append hrest

mutual

theorem Standing.registered_walkStmt (stmt : Stmt) {s : ScopeId} {st : Store}
    (h : Standing ctx (fun _ => True) st s) (hread : stmt.readable = true)
    (hbound : (st.scope s).vars.get? p = some (.script r)) (hno : p ∉ stmt.locals) :
    (walkStmt s stmt st).store.Registered r (stmt.attributes p) := by
  cases stmt with
  | assign items => exact Standing.registered_assign items h hread hbound hno
  | decorated definition =>
    rw [walkStmt]
    exact Standing.registered_walkStmt definition h hread hbound hno
  | control parts =>
    rw [walkStmt]
    exact Standing.registered_walkControl parts h hread hbound hno
  | function name params body => simp [Registered, Stmt.attributes]
  | classDef name bases body => simp [Registered, Stmt.attributes]
  | importNames items => simp [Registered, Stmt.attributes]
  | importFrom source wildcard items => simp [Registered, Stmt.attributes]
  | ret value => simp [Registered, Stmt.attributes]
  | other => simp [Registered, Stmt.attributes]
  | fault => simp [Registered, Stmt.attributes]

/-- A readable body registers every attribute that it assigns through a variable with the class that
the variable is bound to, if it does not bind the variable itself. -/
theorem Standing.registered_walkBody (body : List Stmt) {s : ScopeId} {st : Store}
    (h : Standing ctx (fun _ => True) st s) (hread : Stmt.allReadable body = true)
    (hbound : (st.scope s).vars.get? p = some (.script r)) (hno : p ∉ Stmt.localsIn body) :
    (walkBody s body st).Registered r (Stmt.attributesIn p body) := by
  match body with
  | [] => simp [Registered, Stmt.attributesIn]
  | stmt :: rest =>
    rw [Stmt.allReadable, Bool.and_eq_true] at hread
    rw [Stmt.localsIn, List.mem_append, not_or] at hno
    have hnext := h.after_walkStmt stmt
    have hbound' := (Standing.get?_walkStmt stmt h hno.1).trans hbound
    have hfirst := Standing.registered_walkStmt stmt h hread.1 hbound hno.1
    have hrest := Standing.registered_walkBody rest hnext hread.2 hbound' hno.2
    have hwrites : Writes (fun _ => True) (fun _ => True) (walkStmt s stmt st).store
        (walkBody s rest (walkStmt s stmt st).store) := hnext.writes_walkBody fun _ _ _ _ => trivial
    rw [walkBody, Stmt.attributesIn]
    exact (hfirst.mono (hnext.hasClass_of_get? hbound') hwrites).append hrest

theorem Standing.registered_walkControl (parts : Control) {s : ScopeId} {st : Store}
    (h : Standing ctx (fun _ => True) st s) (hread : parts.readable = true)
    (hbound : (st.scope s).vars.get? p = some (.script r)) (hno : p ∉ parts.locals) :
    (walkControl s parts st).store.Registered r (parts.attributes p) := by
  match parts with
  | .mk targets parts =>
    rw [Control.readable, Bool.and_eq_true] at hread
    obtain ⟨targets, rfl⟩ := Option.isSome_iff_exists.mp hread.1
    rw [Control.locals, List.mem_append, not_or] at hno
    have hbind : Writes (fun _ => True) (· ∈ targets) st
        (targets.foldl (fun st label => st.bindVar s label .unknown) st) :=
      h.free.writes_targets targets fun _ => id
    rw [walkControl, Control.attributes]
    exact Standing.registered_walkParts parts (h.after_targets targets) hread.2
      ((hbind.change.vars s p hno.1).trans hbound) hno.2

theorem Standing.registered_walkParts (parts : List Part) {s : ScopeId} {st : Store}
    (h : Standing ctx (fun _ => True) st s) (hread : Part.allReadable parts = true)
    (hbound : (st.scope s).vars.get? p = some (.script r)) (hno : p ∉ Part.localsIn parts) :
    (walkParts s parts st).store.Registered r (Part.attributesIn p parts) := by
  match parts with
  | [] => simp [Registered, Part.attributesIn]
  | .block body :: rest =>
    rw [Part.allReadable, Bool.and_eq_true] at hread
    rw [Part.localsIn, List.mem_append, not_or] at hno
    have hnext := h.after_walkBody body
    have hbound' := (Standing.get?_walkBody body h hno.1).trans hbound
    have hfirst := Standing.registered_walkBody body h hread.1 hbound hno.1
    have hrest := Standing.registered_walkParts rest hnext hread.2 hbound' hno.2
    have hwrites : Writes (fun _ => True) (fun _ => True) (walkBody s body st)
        (walkParts s rest (walkBody s body st)).store :=
      hnext.writes_walkParts (fun _ _ => trivial) fun _ _ _ _ => trivial
    rw [walkParts, Part.attributesIn]
    exact (hfirst.mono (hnext.hasClass_of_get? hbound') hwrites).append hrest
  | .clause inner :: rest =>
    rw [Part.allReadable, Bool.and_eq_true] at hread
    rw [Part.localsIn, List.mem_append, not_or] at hno
    have hnext := h.after_walkControl inner
    have hbound' := (Standing.get?_walkControl inner h hno.1).trans hbound
    have hfirst := Standing.registered_walkControl inner h hread.1 hbound hno.1
    have hrest := Standing.registered_walkParts rest hnext hread.2 hbound' hno.2
    have hwrites : Writes (fun _ => True) (fun _ => True) (walkControl s inner st).store
        (walkParts s rest (walkControl s inner st).store).store :=
      hnext.writes_walkParts (fun _ _ => trivial) fun _ _ _ _ => trivial
    rw [walkParts, Part.attributesIn,
      andThen_of_completed (Standing.completed_walkControl inner h hread.1)]
    exact (hfirst.mono (hnext.hasClass_of_get? hbound') hwrites).append hrest

end

end Store

end ScriptScope
