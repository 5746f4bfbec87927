import ScriptScope.Proofs.Attributes
import ScriptScope.Proofs.Capture
import ScriptScope.Proofs.ProbedWalk

/-!
# The last body of a script

The scope where the text ends is opened by the last definition, and no statement after the body of
this definition opens another.  `Stmt.extendIn` puts a statement at the end of that body, and
`Stmt.boundAfterIn` lists the names that are bound after it.

Until the end of the body nothing leads into the scope (`Vacant`), so an assignment there is a probe
(`Vacant.onStore_ofAssign`); and what comes after the body neither writes to the scope nor opens
another (`Quiet`).
-/

namespace ScriptScope

/-! ### Putting a statement at the end of the last body -/

/-- Whether one of the statements opens a scope. -/
def Stmt.opensAny (stmts : List Stmt) : Bool :=
  stmts.any (·.opens.isSome)

mutual

/-- Puts a statement at the end of the last body inside a statement that opens a scope. -/
def Stmt.extend (extra : Stmt) : Stmt → Stmt
  | .function name params body => .function name params (Stmt.extendIn extra body)
  | .classDef name bases body => .classDef name bases (Stmt.extendIn extra body)
  | .decorated definition => .decorated (Stmt.extend extra definition)
  | .control parts => .control (Control.extend extra parts)
  | stmt => stmt

/-- Puts a statement at the end of the body of the last definition among statements; without one, at
the end of the statements themselves. -/
def Stmt.extendIn (extra : Stmt) : List Stmt → List Stmt
  | [] => [extra]
  | stmt :: rest =>
    if Stmt.opensAny stmt.order && !Stmt.opensAny (Stmt.orderIn rest) then
      Stmt.extend extra stmt :: rest
    else stmt :: Stmt.extendIn extra rest

/-- Puts a statement at the end of the last body inside a control statement. -/
def Control.extend (extra : Stmt) : Control → Control
  | .mk targets parts => .mk targets (Part.extendIn extra parts)

/-- Puts a statement at the end of the last body inside the parts of a control statement. -/
def Part.extendIn (extra : Stmt) : List Part → List Part
  | [] => []
  | .block body :: rest =>
    if Stmt.opensAny (Part.orderIn rest) then .block body :: Part.extendIn extra rest
    else .block (Stmt.extendIn extra body) :: rest
  | .clause inner :: rest =>
    if Stmt.opensAny (Part.orderIn rest) then .clause inner :: Part.extendIn extra rest
    else .clause (Control.extend extra inner) :: rest

end

mutual

/-- The names that a statement binds after the end of the last body inside it: those of the
definitions around this body, and whatever stands behind them. -/
def Stmt.boundAfter (ctx : Context) : Stmt → List Label
  | .function name _ body | .classDef name _ body => Stmt.boundAfterIn ctx body ++ [some name]
  | .decorated definition => definition.boundAfter ctx
  | .control parts => parts.boundAfter ctx
  | _ => []

/-- The names that statements bind after the end of the last body among them. -/
def Stmt.boundAfterIn (ctx : Context) : List Stmt → List Label
  | [] => []
  | stmt :: rest =>
    if Stmt.opensAny stmt.order && !Stmt.opensAny (Stmt.orderIn rest) then
      stmt.boundAfter ctx ++ (Stmt.orderIn rest).flatMap (Stmt.binds ctx)
    else Stmt.boundAfterIn ctx rest

/-- The names that a control statement binds after the end of the last body inside it. -/
def Control.boundAfter (ctx : Context) : Control → List Label
  | .mk _ parts => Part.boundAfterIn ctx parts

/-- The names that parts of a control statement bind after the end of the last body inside them. -/
def Part.boundAfterIn (ctx : Context) : List Part → List Label
  | [] => []
  | .block body :: rest =>
    if Stmt.opensAny (Part.orderIn rest) then Part.boundAfterIn ctx rest
    else Stmt.boundAfterIn ctx body ++
      (Part.targetsIn rest ++ (Part.orderIn rest).flatMap (Stmt.binds ctx))
  | .clause inner :: rest =>
    if Stmt.opensAny (Part.orderIn rest) then Part.boundAfterIn ctx rest
    else inner.boundAfter ctx ++
      (Part.targetsIn rest ++ (Part.orderIn rest).flatMap (Stmt.binds ctx))

end

/-- The parameters of a function. -/
def Stmt.params : Stmt → List Label
  | .function _ params _ => params.getD []
  | _ => []

/-- The labels that a statement uses for variables, for parameters or for members. -/
def Stmt.uses (stmt : Stmt) : List Label :=
  stmt.locals ++ stmt.params ++ stmt.accessed

namespace Stmt

variable {extra : Stmt} {body : List Stmt}

theorem mem_order_self (stmt : Stmt) : stmt ∈ stmt.order := by
  cases stmt <;> simp [order]

theorem mem_orderIn {stmt : Stmt} (h : stmt ∈ body) : stmt ∈ orderIn body := by
  induction body with
  | nil => simp at h
  | cons first rest ih =>
    rw [orderIn, List.mem_append]
    rcases List.mem_cons.mp h with rfl | h
    · exact .inl (mem_order_self _)
    · exact .inr (ih h)

theorem opensAny_eq_false_iff {stmts : List Stmt} :
    opensAny stmts = false ↔ ∀ x ∈ stmts, x.opens = none := by
  simp [opensAny]

theorem opensAny_append (first rest : List Stmt) :
    opensAny (first ++ rest) = (opensAny first || opensAny rest) :=
  List.any_append

/-- Without definitions, the statement is put at the end. -/
theorem extendIn_of_idle (h : opensAny (orderIn body) = false) :
    extendIn extra body = body ++ [extra] := by
  induction body with
  | nil => rfl
  | cons stmt rest ih =>
    rw [orderIn, opensAny_append, Bool.or_eq_false_iff] at h
    rw [extendIn, h.1, Bool.false_and, ih h.2]
    rfl

theorem boundAfterIn_of_idle (ctx : Context) (h : opensAny (orderIn body) = false) :
    boundAfterIn ctx body = [] := by
  induction body with
  | nil => rfl
  | cons stmt rest ih =>
    rw [orderIn, opensAny_append, Bool.or_eq_false_iff] at h
    rw [boundAfterIn, h.1, Bool.false_and, ← ih h.2]
    rfl

theorem extendIn_ne_nil (extra : Stmt) (body : List Stmt) : extendIn extra body ≠ [] := by
  cases body with
  | nil => simp [extendIn]
  | cons stmt rest =>
    rw [extendIn]
    split <;> simp

end Stmt

/-- Statements that neither open a scope nor use the label of a probe are walked past it. -/
theorem Probe.idle_of_unused (p : Probe) {stmts : List Stmt} (hidle : Stmt.opensAny stmts = false)
    (hunused : ∀ x ∈ stmts, p.label ∉ x.uses) : p.Idle stmts := by
  rw [Stmt.opensAny_eq_false_iff] at hidle
  exact fun x hx => ⟨hidle x hx, fun hmem => hunused x hx (List.mem_append_right _ hmem)⟩

namespace Store

variable {ctx : Context} {s : ScopeId} {st st' st'' : Store} {extra : Stmt} {body : List Stmt}

/-! ### Walking an extended body -/

theorem walkBody_append (s : ScopeId) (first rest : List Stmt) (st : Store) :
    walkBody s (first ++ rest) st = walkBody s rest (walkBody s first st) := by
  induction first generalizing st with
  | nil => rfl
  | cons stmt others ih => exact ih _

theorem returnType_cons (st : Store) (s : ScopeId) (stmt : Stmt) {rest : List Stmt}
    (h : rest ≠ []) : st.returnType s (stmt :: rest) = st.returnType s rest := by
  unfold returnType
  rw [List.getLast?_cons_of_ne_nil h]

/-- What a function returns is not read off the definitions inside it. -/
theorem returnType_extendIn (st : Store) (s : ScopeId)
    (h : Stmt.opensAny (Stmt.orderIn body) = true) :
    st.returnType s (Stmt.extendIn extra body) = st.returnType s body := by
  induction body with
  | nil => simp [Stmt.orderIn, Stmt.opensAny] at h
  | cons stmt rest ih =>
    rw [Stmt.orderIn, Stmt.opensAny_append] at h
    cases hrest : Stmt.opensAny (Stmt.orderIn rest) with
    | true =>
      have hne : rest ≠ [] := by
        rintro rfl
        simp [Stmt.orderIn, Stmt.opensAny] at hrest
      rw [Stmt.extendIn, hrest, Bool.not_true, Bool.and_false,
        ite_cond_eq_false _ _ (eq_false Bool.false_ne_true),
        returnType_cons st s stmt (Stmt.extendIn_ne_nil extra rest), ih hrest,
        returnType_cons st s stmt hne]
    | false =>
      rw [hrest, Bool.or_false] at h
      rw [Stmt.extendIn, h, hrest, Bool.not_false, Bool.and_true,
        ite_cond_eq_true _ _ (eq_true rfl)]
      by_cases hne : rest = []
      -- a statement that opens a scope returns nothing
      · subst hne
        cases stmt with
        | ret value => simp [Stmt.order, Stmt.opensAny, Stmt.opens] at h
        | _ => rfl
      · rw [returnType_cons st s _ hne, returnType_cons st s _ hne]

/-! ### After the last body -/

/-- Writes that bind no names but these, leave a scope alone and open no other. -/
structure Quiet (t : ScopeId) (names : List Label) (st st' : Store) : Prop where
  writes : Writes (· ≠ t) (· ∈ names) st st'
  children : ∀ u, (st'.scope u).children = (st.scope u).children

variable {t : ScopeId} {names more : List Label}

theorem Quiet.refl (t : ScopeId) (st : Store) : Quiet t [] st st :=
  ⟨.refl, fun _ => rfl⟩

theorem Quiet.trans (h : Quiet t names st st') (h' : Quiet t more st' st'') :
    Quiet t (names ++ more) st st'' where
  writes := by
    refine (h.writes.mono (fun _ => id) ?_ (fun _ => id) fun _ _ => id).trans
      (h'.writes.mono (fun _ => id) ?_ (fun _ => id) fun _ _ => id)
    · exact fun _ => List.mem_append_left more
    · exact fun _ => List.mem_append_right names
  children u := (h'.children u).trans (h.children u)

theorem Quiet.hasScope (h : Quiet t names st st') {u : ScopeId} (hu : st.HasScope u) :
    st'.HasScope u :=
  h.writes.change.hasScope hu

theorem Quiet.scope_eq (h : Quiet t names st st') (ht : st.HasScope t) :
    st'.scope t = st.scope t :=
  h.writes.change.elsewhere t ht fun hne => hne rfl

theorem Quiet.spine (h : Quiet t names st st') {a b : ScopeId} (hspine : st.Spine a b) :
    st'.Spine a b :=
  hspine.of_children_eq h.children

/-- Statements that open no scope change no children. -/
theorem upholds_children (ctx : Context) (kids : ScopeId → List ScopeId) :
    Upholds ctx (fun v => v.stmt.opens = none) (fun st => ∀ u, (st.scope u).children = kids u)
      (fun _ _ => True) where
  inferred _ _ _ := trivial
  unknown := trivial
  stored _ := trivial
  lasts _ _ _ := trivial
  var _ h _ _ := by simpa using h
  imported _ h := by simpa using h
  registered _ _ _ _ _ h := h
  opened hnone hopens := by
    rw [hnone] at hopens
    simp at hopens
  made _ h _ _ := h
  parameter _ _ _ := trivial
  function _ _ _ _ := trivial
  closed hnone := by simp [Stmt.opens] at hnone

/-- A walk may leave a scope alone that is not its own. -/
theorem Standing.avoiding (hs : Stands ctx st s) (ht : st.HasScope t) (hne : s ≠ t) :
    Standing ctx (· ≠ t) st s where
  sound := hs.sound
  has := hs.has
  context := hs.context
  here := hne
  later u hu := by
    rintro rfl
    exact absurd ht (Nat.not_lt.mpr hu)

theorem quiet_walkBody (hs : Stands ctx st s) (ht : st.HasScope t) (hne : s ≠ t)
    (hidle : Stmt.opensAny (Stmt.orderIn body) = false) :
    Quiet t ((Stmt.orderIn body).flatMap (Stmt.binds ctx)) st (walkBody s body st) := by
  rw [Stmt.opensAny_eq_false_iff] at hidle
  refine ⟨(hs.avoiding ht hne).writes_walkBody ?_, ?_⟩
  · exact fun x hx label hlabel => List.mem_flatMap.mpr ⟨x, hx, hlabel⟩
  · refine (upholds_children ctx _).walkBody body hs (fun _ => rfl) fun v hv => ?_
    exact hidle v.stmt (stmt_mem_orderIn body v hv)

theorem quiet_walkParts {parts : List Part} (hs : Stands ctx st s) (ht : st.HasScope t)
    (hne : s ≠ t) (hidle : Stmt.opensAny (Part.orderIn parts) = false) :
    Quiet t (Part.targetsIn parts ++ (Part.orderIn parts).flatMap (Stmt.binds ctx)) st
      (walkParts s parts st).store := by
  rw [Stmt.opensAny_eq_false_iff] at hidle
  refine ⟨(hs.avoiding ht hne).writes_walkParts ?_ ?_, ?_⟩
  · exact fun label => List.mem_append_left _
  · exact fun x hx label hlabel =>
      List.mem_append_right _ (List.mem_flatMap.mpr ⟨x, hx, hlabel⟩)
  · refine (upholds_children ctx _).walkParts parts hs (fun _ => rfl) fun v hv => ?_
    exact hidle v.stmt (stmt_mem_partsOrder parts v hv)

/-- The end of a function binds its name. -/
theorem quiet_functionEnd (hs : Stands ctx st s) {name : String} {params : List Label}
    (ht : (st.innerWalk s none params body).HasScope t) (hne : s ≠ t) :
    Quiet t [some name] (st.innerWalk s none params body)
      (walkStmt s (.function name (some params) body) st).store := by
  have hmid := hs.after_innerWalk none params body
  refine ⟨?_, fun u => ?_⟩
  · exact (hmid.avoiding ht hne).free.writes_functionEnd (hs.hasScope_innerWalk none params body)
      (List.mem_singleton_self _) (Visit.meets_free _)
  · rw [walkStmt_function_eq]
    split
    · rfl
    · exact (enters_bindVar hmid.has _ _).children_eq u

/-- The end of a class makes the class and binds its name. -/
theorem quiet_classEnd (hs : Stands ctx st s) {name : String} {bases : List Expr}
    (ht : (st.innerWalk s (some name) [] body).HasScope t) (hne : s ≠ t) :
    Quiet t [some name] (st.innerWalk s (some name) [] body)
      (walkStmt s (.classDef name bases body) st).store := by
  have hmid := hs.after_innerWalk (some name) [] body
  refine ⟨?_, fun u => ?_⟩
  · exact (hmid.avoiding ht hne).free.writes_classEnd
      (hs.hasScope_innerWalk (some name) [] body) (List.mem_singleton_self _) (Visit.meets_free _)
  · rw [walkStmt_classDef_eq]
    split
    · rfl
    · exact (enters_closeClass hmid.sound hmid.has ..).children_eq u

/-- A name that is not bound is found as before. -/
theorem find_of_change {may : ScopeId → Prop} {names : Label → Prop}
    (h : Change may names st st') (hst : st.Sound) (hst' : st'.Sound) (hs : st.HasScope s)
    {name : Label} (hname : ¬ names name) : st'.find s name = st.find s name := by
  have hbinding : ∀ {u : ScopeId}, st.HasScope u → st'.binding? u name = st.binding? u name := by
    -- outwards, on the number of the scope
    intro u hu
    induction hk : u.index using Nat.strongRecOn generalizing u with
    | ind k ih =>
      rw [binding?_eq hst hu, binding?_eq hst' (h.hasScope hu), h.lookup u name hname,
        h.parent u hu]
      cases hparent : (st.scope u).parent with
      | none => rfl
      | some q =>
        have hlt := hst.parent_lt u q hparent
        have hq : st.HasScope q := Nat.lt_trans hlt hu
        rw [Option.bind_some, Option.bind_some, ih q.index (hk ▸ hlt) hq rfl]
  have hbuiltin : st'.builtin? s = st.builtin? s := by
    funext text
    unfold builtin? builtinMembers
    rw [h.context s hs]
  unfold find
  rw [hbinding hs, hbuiltin]

end Store

/-! ### Until the end of the body -/

/-- A probe of which nothing is known. -/
def Probe.blank (s : ScopeId) (label : Label) : Probe :=
  ⟨s, label, .unknown, 0, []⟩

namespace Store

/-- A walk stands in a scope that nothing leads into and that does not bind a label. -/
structure Vacant (ctx : Context) (label : Label) (st : Store) (s : ScopeId) : Prop where
  stands : Stands ctx st s
  clear : (Probe.blank s label).Clear st
  leaf : (st.scope s).children = []
  free : label ∉ (st.scope s).vars.names

variable {label : Label}

/-- Nothing leads into a scope that was just opened. -/
theorem Vacant.opened (hs : Stands ctx st s) (className : Option String) (label : Label) :
    Vacant ctx label (st.addChild s className).2 (st.addChild s className).1 := by
  have hinner := hs.inner className
  have hold : ∀ {u : ScopeId}, st.HasScope u → u ≠ (st.addChild s className).1 := by
    rintro u hu rfl
    exact Nat.lt_irrefl _ hu
  have hparent : ∀ u, ((st.addChild s className).2.scope u).parent ≠
      some (st.addChild s className).1 := by
    intro u hu
    have hlt := hinner.sound.parent_lt u _ hu
    have hnot : ¬ (st.addChild s className).2.HasScope u := by
      unfold HasScope
      rw [length_scopes_addChild]
      rw [index_addChild] at hlt
      omega
    rw [scope_of_not_hasScope hnot] at hu
    simp at hu
  refine ⟨hinner, ⟨hinner.has, Nat.zero_le _, hparent, ?_, ?_, fun _ => rfl⟩, ?_, ?_⟩
  · intro u b hb
    rw [(tables_addChild className hs.has u).1, (tables_addChild className hs.has u).2,
      List.mem_append] at hb
    have hb : st.Holds b.2 := by
      rcases hb with hb | hb
      · exact (hs.sound.vars u).held b hb
      · exact (hs.sound.imports u).held b hb
    cases hd : b.2 with
    | function fn =>
      rw [hd] at hb
      obtain ⟨v, hv, hhas⟩ := hb
      intro hscope
      rw [hv] at hscope
      exact absurd (Option.some.inj hscope) (hold hhas)
    | instanceOf typeName scope =>
      rw [hd] at hb
      exact fun hscope => hold (hb _ hscope) rfl
    | unknown => trivial
    | static name => trivial
    | script id => trivial
  · intro id _ hhome
    obtain ⟨u, hu, hhome⟩ := Option.map_eq_some_iff.mp hhome
    have hhas := hold (hs.sound.class_scope id u hu)
    cases hp : ((st.addChild s className).2.scope u).parent with
    | none =>
      rw [hp] at hhome
      exact hhas hhome
    | some q =>
      rw [hp] at hhome
      exact hparent u (hp.trans (congrArg some hhome))
  · rw [scope_addChild_new]
  · rw [scope_addChild_new]
    simp [Bindings.names]

theorem Vacant.after_bindParams (h : Vacant ctx label st s) {params : List Label}
    (hfree : label ∉ params) (hclass : (st.scope s).className = none)
    (hparent : (st.scope s).parent ≠ none) :
    Vacant ctx label (bindParams s params st) s := by
  have hfills := fills_bindParams params h.stands.has
  refine ⟨h.stands.after_bindParams params, ?_, ?_, ?_⟩
  · exact (Probe.Clear.upholds ctx _).bindParams params h.stands h.clear hclass hparent
  · rw [hfills.children, h.leaf]
  · rw [hfills.names, mem_addNew, not_or]
    exact ⟨h.free, hfree⟩

/-- Statements that open no scope lead into none. -/
theorem Vacant.after_walkBody (h : Vacant ctx label st s) (hread : Stmt.allReadable body = true)
    (hidle : Stmt.opensAny (Stmt.orderIn body) = false) (hfree : label ∉ Stmt.localsIn body) :
    Vacant ctx label (walkBody s body st) s := by
  rw [Stmt.opensAny_eq_false_iff] at hidle
  have hidle : ∀ v ∈ visitsIn s body st, v.stmt.opens = none :=
    fun v hv => hidle v.stmt (stmt_mem_orderIn body v hv)
  refine ⟨h.stands.after_walkBody body, ?_, ?_, ?_⟩
  · exact (Probe.Clear.upholds ctx _).walkBody body h.stands h.clear hidle
  · rw [← h.leaf]
    exact (upholds_children ctx _).walkBody body h.stands (fun _ => rfl) hidle s
  · rw [(draws_walkBody body h.stands.sound h.stands.has hread).names, mem_addNew, not_or]
    exact ⟨h.free, hfree⟩

end Store

/-- Nothing leads into the outermost scope at the start of a script. -/
theorem Analysis.vacant_empty (ctx : Context) (label : Label) :
    Store.Vacant ctx label (empty ctx).store (empty ctx).root := by
  refine ⟨standing_empty ctx fun _ => trivial, ⟨Nat.zero_lt_one, Nat.zero_le _, ?_, ?_, ?_,
    fun _ => rfl⟩, rfl, by simp [empty, Store.addRoot, Store.scope, Bindings.names]⟩
  · intro t
    rcases scope_empty ctx t with e | e <;> simp [e]
  · intro t b hb
    rcases scope_empty ctx t with e | e <;> simp [e] at hb
  · intro id hid
    exact absurd rfl hid

/-! ### An assignment as a probe -/

/-- The classes that enter a store with a value. -/
def Value.newClasses : Value → List ClassInfo
  | .held _ => []
  | .made info => [info]

/-- A class body that binds a name to such a value makes it a member. -/
def Value.isMember : Value → Bool
  | .held d => d.isMember
  | .made _ => true

theorem Store.isMember_hold (st : Store) (v : Value) : (st.hold v).1.isMember = v.isMember := by
  cases v <;> rfl

theorem Bindings.bind_of_not_mem {table : Bindings} {name : Label} (h : name ∉ table.names)
    (value : Descriptor) : table.bind name value = table ++ [(name, value)] := by
  induction table with
  | nil => rfl
  | cons b rest ih =>
    rw [names, List.map_cons, List.mem_cons, not_or] at h
    rw [bind, ite_cond_eq_false _ _ (eq_false (Ne.symm h.1)), ih h.2]
    rfl

namespace Probe

/-- The probe that an assignment puts into a store. -/
def ofAssign (st : Store) (s : ScopeId) (label : Label) (v : Value) : Probe where
  scope := s
  label := label
  held := (st.hold v).1
  base := st.classes.length
  extra := v.newClasses

variable {p : Probe} {st : Store} {s : ScopeId} {label : Label} {v : Value} {ctx : Context}

theorem onDescriptor_of_holds {d : Descriptor} (h : st.Holds d)
    (hbase : st.classes.length ≤ p.base) : p.onDescriptor d = d := by
  cases d with
  | script id =>
    have hlt : id.index < p.base := Nat.lt_of_lt_of_le h hbase
    simp [onDescriptor, onClassId, hlt]
  | _ => rfl

theorem onTable_of_fits {table : Bindings} (h : st.Fits table)
    (hbase : st.classes.length ≤ p.base) : p.onTable table = table := by
  unfold onTable
  conv_rhs => rw [← List.map_id table]
  refine List.map_congr_left fun b hb => ?_
  rw [onDescriptor_of_holds (h.held b hb) hbase]
  rfl

end Probe

namespace Store

variable {ctx : Context} {st : Store} {s : ScopeId} {label : Label}

theorem hold_snd_eq (st : Store) (v : Value) :
    (st.hold v).2 = ⟨st.scopes, st.classes ++ v.newClasses⟩ := by
  cases v with
  | held d => simp [hold, Value.newClasses]
  | made info => rfl

/-- At the end of the body, an assignment puts a probe into its scope. -/
theorem Vacant.onStore_ofAssign (h : Vacant ctx label st s) (v : Value) :
    (Probe.ofAssign st s label v).onStore st = st.assign s label v := by
  unfold assign bindVar modifyScope Probe.onStore
  rw [hold_snd_eq]
  refine congrArg₂ Store.mk (List.ext_getElem? fun i => ?_) (by simp [Probe.ofAssign])
  rw [List.getElem?_mapIdx, List.getElem?_modify]
  cases hi : st.scopes[i]? with
  | none => rfl
  | some info =>
    have hinfo : st.scope ⟨i⟩ = info := by simp [scope, hi]
    have hvars := h.stands.sound.vars ⟨i⟩
    have himports := h.stands.sound.imports ⟨i⟩
    rw [hinfo] at hvars himports
    have hbase : st.classes.length ≤ (Probe.ofAssign st s label v).base := Nat.le_refl _
    refine congrArg some ?_
    unfold Probe.onScope
    dsimp only
    rw [Probe.onTable_of_fits hvars hbase, Probe.onTable_of_fits himports hbase]
    by_cases hs : s.index = i
    · subst hs
      have hfree := h.free
      rw [hinfo] at hfree
      rw [Bindings.bind_of_not_mem hfree]
      simp [Probe.ofAssign]
    · have hne : ¬ (⟨i⟩ : ScopeId) = s := fun e => hs (congrArg ScopeId.index e).symm
      simp [Probe.ofAssign, hs, hne]

/-- Nothing finds what is assigned there, unless a class body is given a member. -/
theorem Vacant.clear_ofAssign (h : Vacant ctx label st s) {v : Value}
    (hplain : (st.scope s).className ≠ none → v.isMember = false) :
    (Probe.ofAssign st s label v).Clear st where
  has := h.stands.has
  base_le := Nat.le_refl _
  parents := h.clear.parents
  bound := h.clear.bound
  bases := h.clear.bases
  plain hclass := by
    rw [← hplain hclass]
    exact isMember_hold st v

end Store

namespace Probe

variable {ctx : Context} {mid st : Store} {s : ScopeId} {label : Label}

/-- What was assigned has the members of the value that it was assigned. -/
theorem members_ofAssign {v : Value} (h : (ofAssign mid s label v).Clear st)
    (hv : (blank s label).ApartValue v) :
    Store.members ctx ((ofAssign mid s label v).onStore st) (.held (mid.hold v).1) =
      Store.members ctx st v := by
  cases v with
  | held d =>
    have hsame : (ofAssign mid s label (.held d)).onValue (.held d) = .held d := by
      cases d with
      | script id =>
        refine congrArg (fun id => Value.held (.script id)) ?_
        unfold onClassId
        split <;> rfl
      | _ => rfl
    have hsound := members_onStore h ctx (v := .held d) hv
    rwa [hsame] at hsound
  | made info =>
    have hbase := h.base_le
    simp only [ofAssign] at hbase
    have hid : ((ofAssign mid s label (.made info)).onStore st).HasClass ⟨mid.classes.length⟩ := by
      simp only [Store.HasClass, onStore, ofAssign, Value.newClasses, List.length_append,
        List.length_take, List.length_singleton]
      omega
    refine members_extra h ctx hid ?_ hv
    simp [Store.cls, onStore, ofAssign, Value.newClasses, hbase]

end Probe

end ScriptScope
