import ScriptScope.Proofs.Endings

/-!
# The statements that a walk comes to

Whatever statement a walk comes to stands in a scope of a sound store.  In readable code nothing is
left out: the walk comes to every statement, in the order of the text, and each comes to its end
(`Standing.exhausts_visitsIn`).  What the walk did before a statement led to the store that the
statement finds, and what it does afterwards leaves the scopes that the statement opened alone
(`Keeping.passes_visitsIn`).
-/

namespace ScriptScope

namespace Store

/-! ### Every statement stands in a sound store -/

variable {ctx : Context} {may : ScopeId → Prop}

mutual

theorem Standing.of_mem_visits (stmt : Stmt) {s : ScopeId} {st : Store}
    (hs : Standing ctx may st s) :
    ∀ v ∈ visits s stmt st, Standing ctx may v.before v.scope := by
  -- on the statement; what is inside a definition stands in the scope that it opens
  cases stmt with
  | function name params body =>
    cases params with
    | none => exact List.forall_mem_singleton.mpr hs
    | some params =>
      rw [visits, List.forall_mem_cons]
      exact ⟨hs, Standing.of_mem_visitsIn body ((hs.inner none).after_bindParams params)⟩
  | classDef name bases body =>
    rw [visits, List.forall_mem_cons]
    exact ⟨hs, Standing.of_mem_visitsIn body (hs.inner (some name))⟩
  | decorated definition =>
    rw [visits, List.forall_mem_cons]
    exact ⟨hs, Standing.of_mem_visits definition hs⟩
  | control parts =>
    rw [visits, List.forall_mem_cons]
    exact ⟨hs, Standing.of_mem_visitsControl parts hs⟩
  | importNames items => exact List.forall_mem_singleton.mpr hs
  | importFrom source wildcard items => exact List.forall_mem_singleton.mpr hs
  | assign items => exact List.forall_mem_singleton.mpr hs
  | ret value => exact List.forall_mem_singleton.mpr hs
  | other => exact List.forall_mem_singleton.mpr hs
  | fault => exact List.forall_mem_singleton.mpr hs

/-- Whatever statement a walk comes to, readable or not, stands in a scope of a sound store. -/
theorem Standing.of_mem_visitsIn (body : List Stmt) {s : ScopeId} {st : Store}
    (hs : Standing ctx may st s) :
    ∀ v ∈ visitsIn s body st, Standing ctx may v.before v.scope := by
  match body with
  | [] => simp [visitsIn]
  | stmt :: rest =>
    rw [visitsIn, List.forall_mem_append]
    exact ⟨Standing.of_mem_visits stmt hs, Standing.of_mem_visitsIn rest (hs.after_walkStmt stmt)⟩

theorem Standing.of_mem_visitsControl (parts : Control) {s : ScopeId} {st : Store}
    (hs : Standing ctx may st s) :
    ∀ v ∈ visitsControl s parts st, Standing ctx may v.before v.scope := by
  match parts with
  | .mk none _ => simp [visitsControl]
  | .mk (some targets) parts =>
    rw [visitsControl]
    exact Standing.of_mem_visitsParts parts (hs.after_targets targets)

theorem Standing.of_mem_visitsParts (parts : List Part) {s : ScopeId} {st : Store}
    (hs : Standing ctx may st s) :
    ∀ v ∈ visitsParts s parts st, Standing ctx may v.before v.scope := by
  match parts with
  | [] => simp [visitsParts]
  | .block body :: rest =>
    rw [visitsParts, List.forall_mem_append]
    exact ⟨Standing.of_mem_visitsIn body hs,
      Standing.of_mem_visitsParts rest (hs.after_walkBody body)⟩
  | .clause inner :: rest =>
    rw [visitsParts, List.forall_mem_append]
    refine ⟨Standing.of_mem_visitsControl inner hs, ?_⟩
    split
    · exact Standing.of_mem_visitsParts rest (hs.after_walkControl inner)
    · simp

end

/-! ### Nothing is left out -/

/-- The visits are those of the statements in turn, and each comes to its end. -/
structure Exhausts (vs : List Visit) (stmts : List Stmt) : Prop where
  stmts : vs.map Visit.stmt = stmts
  completed : ∀ v ∈ vs, v.outcome.completed = true

theorem Exhausts.nil : Exhausts [] [] :=
  ⟨rfl, by simp⟩

theorem Exhausts.cons {v : Visit} {vs : List Visit} {stmts : List Stmt}
    (hv : v.outcome.completed = true) (h : Exhausts vs stmts) :
    Exhausts (v :: vs) (v.stmt :: stmts) :=
  ⟨by rw [List.map_cons, h.stmts], List.forall_mem_cons.mpr ⟨hv, h.completed⟩⟩

theorem Exhausts.append {vs ws : List Visit} {stmts others : List Stmt} (h : Exhausts vs stmts)
    (h' : Exhausts ws others) : Exhausts (vs ++ ws) (stmts ++ others) :=
  ⟨by rw [List.map_append, h.stmts, h'.stmts],
    List.forall_mem_append.mpr ⟨h.completed, h'.completed⟩⟩

/-- The last visit is that of the last statement. -/
theorem Exhausts.exists_last {vs : List Visit} {before : List Stmt} {stmt : Stmt}
    (h : Exhausts vs (before ++ [stmt])) :
    ∃ us v, vs = us ++ [v] ∧ us.map Visit.stmt = before ∧ v.stmt = stmt ∧
      v.outcome.completed = true := by
  rcases List.eq_nil_or_concat vs with rfl | ⟨us, v, rfl⟩
  · have hnil := h.stmts
    simp at hnil
  · rw [List.concat_eq_append] at h
    have hstmts := h.stmts
    rw [List.map_append] at hstmts
    obtain ⟨hbefore, hlast⟩ := List.append_inj' hstmts rfl
    refine ⟨us, v, List.concat_eq_append .., hbefore, List.singleton_inj.mp hlast, ?_⟩
    exact h.completed v (List.mem_append_right _ (List.mem_singleton_self v))

mutual

theorem Standing.exhausts_visits (stmt : Stmt) {s : ScopeId} {st : Store}
    (hs : Standing ctx may st s) (h : stmt.readable = true) :
    Exhausts (visits s stmt st) stmt.order := by
  -- on the statement: it comes to its end itself, and so does what is inside
  have hend : (Visit.mk s stmt st).outcome.completed = true := Standing.completed_walkStmt stmt hs h
  cases stmt with
  | function name params body =>
    rw [Stmt.readable, Bool.and_eq_true] at h
    obtain ⟨params, rfl⟩ := Option.isSome_iff_exists.mp h.1
    rw [visits, Stmt.order]
    exact .cons hend
      (Standing.exhausts_visitsIn body ((hs.inner none).after_bindParams params) h.2)
  | classDef name bases body =>
    rw [Stmt.readable, Bool.and_eq_true] at h
    rw [visits, Stmt.order]
    exact .cons hend (Standing.exhausts_visitsIn body (hs.inner (some name)) h.2)
  | decorated definition =>
    rw [visits, Stmt.order]
    exact .cons hend (Standing.exhausts_visits definition hs h)
  | control parts =>
    rw [visits, Stmt.order]
    exact .cons hend (Standing.exhausts_visitsControl parts hs h)
  | importNames items => exact .cons hend .nil
  | importFrom source wildcard items => exact .cons hend .nil
  | assign items => exact .cons hend .nil
  | ret value => exact .cons hend .nil
  | other => exact .cons hend .nil
  | fault => simp [Stmt.readable] at h

/-- Walking a readable body comes to all of its statements, and each comes to its end. -/
theorem Standing.exhausts_visitsIn (body : List Stmt) {s : ScopeId} {st : Store}
    (hs : Standing ctx may st s) (h : Stmt.allReadable body = true) :
    Exhausts (visitsIn s body st) (Stmt.orderIn body) := by
  match body with
  | [] => exact .nil
  | stmt :: rest =>
    rw [Stmt.allReadable, Bool.and_eq_true] at h
    rw [visitsIn, Stmt.orderIn]
    exact (Standing.exhausts_visits stmt hs h.1).append
      (Standing.exhausts_visitsIn rest (hs.after_walkStmt stmt) h.2)

theorem Standing.exhausts_visitsControl (parts : Control) {s : ScopeId} {st : Store}
    (hs : Standing ctx may st s) (h : parts.readable = true) :
    Exhausts (visitsControl s parts st) parts.order := by
  match parts with
  | .mk targets parts =>
    rw [Control.readable, Bool.and_eq_true] at h
    obtain ⟨targets, rfl⟩ := Option.isSome_iff_exists.mp h.1
    exact Standing.exhausts_visitsParts parts (hs.after_targets targets) h.2

theorem Standing.exhausts_visitsParts (parts : List Part) {s : ScopeId} {st : Store}
    (hs : Standing ctx may st s) (h : Part.allReadable parts = true) :
    Exhausts (visitsParts s parts st) (Part.orderIn parts) := by
  match parts with
  | [] => exact .nil
  | .block body :: rest =>
    rw [Part.allReadable, Bool.and_eq_true] at h
    rw [visitsParts, Part.orderIn]
    exact (Standing.exhausts_visitsIn body hs h.1).append
      (Standing.exhausts_visitsParts rest (hs.after_walkBody body) h.2)
  | .clause inner :: rest =>
    rw [Part.allReadable, Bool.and_eq_true] at h
    have hend : (walkControl s inner st).completed = true :=
      Standing.completed_walkControl inner hs h.1
    rw [visitsParts, Part.orderIn, ite_cond_eq_true _ _ (eq_true hend)]
    exact (Standing.exhausts_visitsControl inner hs h.1).append
      (Standing.exhausts_visitsParts rest (hs.after_walkControl inner) h.2)

end

/-! ### No statement is made up -/

end Store

mutual

theorem Stmt.readable_of_mem_order (stmt : Stmt) (h : stmt.readable = true) :
    ∀ x ∈ stmt.order, x.readable = true := by
  cases stmt with
  | function name params body =>
    rw [Stmt.order, List.forall_mem_cons]
    refine ⟨h, ?_⟩
    rw [Stmt.readable, Bool.and_eq_true] at h
    exact Stmt.readable_of_mem_orderIn body h.2
  | classDef name bases body =>
    rw [Stmt.order, List.forall_mem_cons]
    refine ⟨h, ?_⟩
    rw [Stmt.readable, Bool.and_eq_true] at h
    exact Stmt.readable_of_mem_orderIn body h.2
  | decorated definition =>
    rw [Stmt.order, List.forall_mem_cons]
    exact ⟨h, Stmt.readable_of_mem_order definition h⟩
  | control parts =>
    rw [Stmt.order, List.forall_mem_cons]
    exact ⟨h, Control.readable_of_mem_order parts h⟩
  | importNames items => exact List.forall_mem_singleton.mpr h
  | importFrom source wildcard items => exact List.forall_mem_singleton.mpr h
  | assign items => exact List.forall_mem_singleton.mpr h
  | ret value => exact List.forall_mem_singleton.mpr h
  | other => exact List.forall_mem_singleton.mpr h
  | fault => exact List.forall_mem_singleton.mpr h

/-- The statements inside readable ones are readable. -/
theorem Stmt.readable_of_mem_orderIn (body : List Stmt) (h : Stmt.allReadable body = true) :
    ∀ x ∈ Stmt.orderIn body, x.readable = true := by
  match body with
  | [] => simp [Stmt.orderIn]
  | stmt :: rest =>
    rw [Stmt.allReadable, Bool.and_eq_true] at h
    rw [Stmt.orderIn, List.forall_mem_append]
    exact ⟨Stmt.readable_of_mem_order stmt h.1, Stmt.readable_of_mem_orderIn rest h.2⟩

theorem Control.readable_of_mem_order (parts : Control) (h : parts.readable = true) :
    ∀ x ∈ parts.order, x.readable = true := by
  match parts with
  | .mk targets parts =>
    rw [Control.readable, Bool.and_eq_true] at h
    exact Part.readable_of_mem_orderIn parts h.2

theorem Part.readable_of_mem_orderIn (parts : List Part) (h : Part.allReadable parts = true) :
    ∀ x ∈ Part.orderIn parts, x.readable = true := by
  match parts with
  | [] => simp [Part.orderIn]
  | .block body :: rest =>
    rw [Part.allReadable, Bool.and_eq_true] at h
    rw [Part.orderIn, List.forall_mem_append]
    exact ⟨Stmt.readable_of_mem_orderIn body h.1, Part.readable_of_mem_orderIn rest h.2⟩
  | .clause inner :: rest =>
    rw [Part.allReadable, Bool.and_eq_true] at h
    rw [Part.orderIn, List.forall_mem_append]
    exact ⟨Control.readable_of_mem_order inner h.1, Part.readable_of_mem_orderIn rest h.2⟩

end

namespace Store

mutual

theorem stmt_mem_order (stmt : Stmt) {s : ScopeId} {st : Store} :
    ∀ v ∈ visits s stmt st, v.stmt ∈ stmt.order := by
  cases stmt with
  | function name params body =>
    rw [Stmt.order]
    cases params with
    | none => exact List.forall_mem_singleton.mpr (List.mem_cons_self ..)
    | some params =>
      rw [visits, List.forall_mem_cons]
      exact ⟨List.mem_cons_self .., fun v hv =>
        List.mem_cons_of_mem _ (stmt_mem_orderIn body v hv)⟩
  | classDef name bases body =>
    rw [visits, Stmt.order, List.forall_mem_cons]
    exact ⟨List.mem_cons_self .., fun v hv => List.mem_cons_of_mem _ (stmt_mem_orderIn body v hv)⟩
  | decorated definition =>
    rw [visits, Stmt.order, List.forall_mem_cons]
    exact ⟨List.mem_cons_self .., fun v hv =>
      List.mem_cons_of_mem _ (stmt_mem_order definition v hv)⟩
  | control parts =>
    rw [visits, Stmt.order, List.forall_mem_cons]
    exact ⟨List.mem_cons_self .., fun v hv =>
      List.mem_cons_of_mem _ (stmt_mem_controlOrder parts v hv)⟩
  | importNames items => exact List.forall_mem_singleton.mpr (List.mem_cons_self ..)
  | importFrom source wildcard items => exact List.forall_mem_singleton.mpr (List.mem_cons_self ..)
  | assign items => exact List.forall_mem_singleton.mpr (List.mem_cons_self ..)
  | ret value => exact List.forall_mem_singleton.mpr (List.mem_cons_self ..)
  | other => exact List.forall_mem_singleton.mpr (List.mem_cons_self ..)
  | fault => exact List.forall_mem_singleton.mpr (List.mem_cons_self ..)

/-- Readable or not, the statements that a walk comes to are those of the text. -/
theorem stmt_mem_orderIn (body : List Stmt) {s : ScopeId} {st : Store} :
    ∀ v ∈ visitsIn s body st, v.stmt ∈ Stmt.orderIn body := by
  match body with
  | [] => simp [visitsIn]
  | stmt :: rest =>
    rw [visitsIn, Stmt.orderIn, List.forall_mem_append]
    exact ⟨fun v hv => List.mem_append_left _ (stmt_mem_order stmt v hv),
      fun v hv => List.mem_append_right _ (stmt_mem_orderIn rest v hv)⟩

theorem stmt_mem_controlOrder (parts : Control) {s : ScopeId} {st : Store} :
    ∀ v ∈ visitsControl s parts st, v.stmt ∈ parts.order := by
  match parts with
  | .mk none _ => simp [visitsControl]
  | .mk (some targets) parts => exact stmt_mem_partsOrder parts

theorem stmt_mem_partsOrder (parts : List Part) {s : ScopeId} {st : Store} :
    ∀ v ∈ visitsParts s parts st, v.stmt ∈ Part.orderIn parts := by
  match parts with
  | [] => simp [visitsParts]
  | .block body :: rest =>
    rw [visitsParts, Part.orderIn, List.forall_mem_append]
    exact ⟨fun v hv => List.mem_append_left _ (stmt_mem_orderIn body v hv),
      fun v hv => List.mem_append_right _ (stmt_mem_partsOrder rest v hv)⟩
  | .clause inner :: rest =>
    rw [visitsParts, Part.orderIn, List.forall_mem_append]
    refine ⟨fun v hv => List.mem_append_left _ (stmt_mem_controlOrder inner v hv), ?_⟩
    split
    · exact fun v hv => List.mem_append_right _ (stmt_mem_partsOrder rest v hv)
    · simp

end

/-- A class that a statement defines is new. -/
theorem Standing.not_hasClass_of_definesClass {v : Visit} (h : Standing ctx may v.before v.scope)
    {name : String} {id : ClassId} (hd : v.DefinesClass name id) : ¬ v.before.HasClass id := by
  obtain ⟨s, stmt, st⟩ := v
  obtain ⟨bases, body, hstmt, hend, hbound⟩ := hd
  dsimp only at h hstmt hbound ⊢
  subst hstmt
  have hmid := h.after_innerWalk (some name) [] body
  cases hbases : (st.innerWalk s (some name) [] body).baseNames s bases with
  | none =>
    rw [Visit.outcome, walkStmt_classDef_eq, hbases] at hend
    simp [Outcome.stopped] at hend
  | some superclasses =>
    rw [outcome_classDef hmid.sound hbases] at hbound
    dsimp only [Outcome.done] at hbound
    rw [vars_bindVar_self _ _ _ (by
      simpa only [HasScope, scopes_spread, scopes_gather, scopes_addClass] using hmid.has),
      Bindings.get?_bind, ite_cond_eq_true _ _ (eq_self _), Option.some.injEq,
      Descriptor.script.injEq] at hbound
    have hle : st.classes.length ≤ (st.innerWalk s (some name) [] body).classes.length := by
      have hwrites : Writes may (fun _ => True) st (st.innerWalk s (some name) [] body) :=
        (h.free.writes_innerWalk (some name) [] (by simp)
          fun h => h.toStanding.writes_walkBody fun _ _ _ _ => trivial).1
      exact hwrites.change.classes_le
    rw [← hbound]
    exact Nat.not_lt.mpr hle

end Store

/-! ### Before and after a statement -/

/-- A scope that a statement finds, or one that is opened after it. -/
def Visit.Outside (v : Visit) (t : ScopeId) : Prop :=
  t.index < v.before.scopes.length ∨ v.outcome.store.scopes.length ≤ t.index

namespace Store

/-- On the way from one store to another a statement is walked: what came before led to the store
that it finds, what it defines meets the terms, and what came afterwards left the scopes that it
opened alone. -/
structure Passes (terms : Terms) (v : Visit) (st st' : Store) : Prop where
  before : WritesOn (fun _ => True) (fun _ => True) terms st v.before
  meets : ∀ w ∈ visits v.scope v.stmt v.before, w.Meets terms
  after : WritesOn v.Outside (fun _ => True) terms v.outcome.store st'

variable {terms : Terms} {v : Visit} {st st' st'' : Store} {s : ScopeId}

theorem Passes.self {stmt : Stmt} (h : ∀ w ∈ visits s stmt st, w.Meets terms) :
    Passes terms ⟨s, stmt, st⟩ st (walkStmt s stmt st).store :=
  ⟨.refl, h, .refl⟩

theorem Passes.since (h : Passes terms v st' st'')
    (w : WritesOn (fun _ => True) (fun _ => True) terms st st') : Passes terms v st st'' :=
  ⟨w.trans h.before, h.meets, h.after⟩

theorem Passes.until (h : Passes terms v st st')
    (w : WritesOn v.Outside (fun _ => True) terms st' st'') : Passes terms v st st'' :=
  ⟨h.before, h.meets, h.after.trans w⟩

/-- Whoever stood in a scope before the statement goes on there without touching the scopes that it
opened. -/
theorem Passes.outside (h : Passes terms v st st') (hs : st.HasScope s)
    (hst' : Keeping ctx may terms st' s) : Keeping ctx v.Outside terms st' s where
  sound := hst'.sound
  has := hst'.has
  context := hst'.context
  here := .inl (Nat.lt_of_lt_of_le hs h.before.writes.change.scopes_le)
  later _ ht := .inr (Nat.le_trans h.after.writes.change.scopes_le ht)
  functions := hst'.functions

/-- A body is walked in a scope of its own, and then the definition is finished. -/
theorem Passes.innerWalk (className : Option String) (params : List Label) {body : List Stmt}
    (hs : Keeping ctx (fun _ => True) terms st s)
    (h : Passes terms v (bindParams (st.addChild s className).1 params (st.addChild s className).2)
      (st.innerWalk s className params body)) :
    Passes terms v st (st.innerWalk s className params body) := by
  have hopen : WritesOn (fun _ => True) (fun _ => True) terms st (st.addChild s className).2 :=
    .single (.opened className trivial hs.has)
  exact h.since (hopen.trans ((hs.inner className).writes_bindParams params fun _ _ => trivial))

mutual

theorem Keeping.passes_visits (stmt : Stmt) {s : ScopeId} {st : Store}
    (hs : Keeping ctx (fun _ => True) terms st s)
    (hmeets : ∀ v ∈ visits s stmt st, v.Meets terms) :
    ∀ v ∈ visits s stmt st, Passes terms v st (walkStmt s stmt st).store := by
  have hself := Passes.self hmeets
  -- on the statement; a definition goes on outside once its body is walked
  cases stmt with
  | function name params body =>
    cases params with
    | none => exact List.forall_mem_singleton.mpr hself
    | some params =>
      rw [visits, List.forall_mem_cons] at hmeets ⊢
      refine ⟨hself, fun v hv => ?_⟩
      have hbound := (hs.inner none).after
        ((hs.inner none).writes_bindParams params fun _ _ => trivial)
      have hbody := Passes.innerWalk none params hs
        (Keeping.passes_visitsIn body hbound hmeets.2 v hv)
      obtain ⟨hwalk, hinner⟩ := hs.writes_innerWalk none params (fun _ _ => trivial)
        fun h => Keeping.writes_walkBody body h (fun _ _ _ _ => trivial) hmeets.2
      exact hbody.until ((hbody.outside hs.has (hs.after hwalk)).writes_functionEnd hinner trivial
        hmeets.1)
  | classDef name bases body =>
    rw [visits, List.forall_mem_cons] at hmeets ⊢
    refine ⟨hself, fun v hv => ?_⟩
    have hbody := Passes.innerWalk (some name) [] hs
      (Keeping.passes_visitsIn body (hs.inner (some name)) hmeets.2 v hv)
    obtain ⟨hwalk, hinner⟩ := hs.writes_innerWalk (some name) [] (fun _ _ => trivial)
      fun h => Keeping.writes_walkBody body h (fun _ _ _ _ => trivial) hmeets.2
    exact hbody.until ((hbody.outside hs.has (hs.after hwalk)).writes_classEnd hinner trivial
      hmeets.1)
  | decorated definition =>
    rw [visits, List.forall_mem_cons] at hmeets ⊢
    exact ⟨hself, Keeping.passes_visits definition hs hmeets.2⟩
  | control parts =>
    rw [visits, List.forall_mem_cons] at hmeets ⊢
    exact ⟨hself, Keeping.passes_visitsControl parts hs hmeets.2⟩
  | importNames items => exact List.forall_mem_singleton.mpr hself
  | importFrom source wildcard items => exact List.forall_mem_singleton.mpr hself
  | assign items => exact List.forall_mem_singleton.mpr hself
  | ret value => exact List.forall_mem_singleton.mpr hself
  | other => exact List.forall_mem_singleton.mpr hself
  | fault => exact List.forall_mem_singleton.mpr hself

/-- A walk passes every statement that it comes to. -/
theorem Keeping.passes_visitsIn (body : List Stmt) {s : ScopeId} {st : Store}
    (hs : Keeping ctx (fun _ => True) terms st s)
    (hmeets : ∀ v ∈ visitsIn s body st, v.Meets terms) :
    ∀ v ∈ visitsIn s body st, Passes terms v st (walkBody s body st) := by
  match body with
  | [] => simp [visitsIn]
  | stmt :: rest =>
    rw [visitsIn, List.forall_mem_append] at hmeets ⊢
    have hfirst := Keeping.writes_walkStmt stmt hs (fun _ _ _ _ => trivial) hmeets.1
    have hnext := hs.after hfirst
    refine ⟨fun v hv => ?_, fun v hv => ?_⟩
    · have hpass := Keeping.passes_visits stmt hs hmeets.1 v hv
      exact hpass.until (Keeping.writes_walkBody rest (hpass.outside hs.has hnext)
        (fun _ _ _ _ => trivial) hmeets.2)
    · exact (Keeping.passes_visitsIn rest hnext hmeets.2 v hv).since hfirst

theorem Keeping.passes_visitsControl (parts : Control) {s : ScopeId} {st : Store}
    (hs : Keeping ctx (fun _ => True) terms st s)
    (hmeets : ∀ v ∈ visitsControl s parts st, v.Meets terms) :
    ∀ v ∈ visitsControl s parts st, Passes terms v st (walkControl s parts st).store := by
  match parts with
  | .mk none _ => simp [visitsControl]
  | .mk (some targets) parts =>
    rw [visitsControl] at hmeets ⊢
    have hbind := hs.writes_targets targets fun _ _ => trivial
    intro v hv
    exact (Keeping.passes_visitsParts parts (hs.after hbind) hmeets v hv).since hbind

theorem Keeping.passes_visitsParts (parts : List Part) {s : ScopeId} {st : Store}
    (hs : Keeping ctx (fun _ => True) terms st s)
    (hmeets : ∀ v ∈ visitsParts s parts st, v.Meets terms) :
    ∀ v ∈ visitsParts s parts st, Passes terms v st (walkParts s parts st).store := by
  match parts with
  | [] => simp [visitsParts]
  | .block body :: rest =>
    rw [visitsParts, List.forall_mem_append] at hmeets ⊢
    rw [walkParts]
    have hfirst := Keeping.writes_walkBody body hs (fun _ _ _ _ => trivial) hmeets.1
    have hnext := hs.after hfirst
    refine ⟨fun v hv => ?_, fun v hv => ?_⟩
    · have hpass := Keeping.passes_visitsIn body hs hmeets.1 v hv
      exact hpass.until (Keeping.writes_walkParts rest (hpass.outside hs.has hnext)
        (fun _ _ => trivial) (fun _ _ _ _ => trivial) hmeets.2)
    · exact (Keeping.passes_visitsParts rest hnext hmeets.2 v hv).since hfirst
  | .clause inner :: rest =>
    rw [visitsParts, List.forall_mem_append] at hmeets ⊢
    rw [walkParts]
    have hfirst := Keeping.writes_walkControl inner hs (fun _ _ => trivial)
      (fun _ _ _ _ => trivial) hmeets.1
    have hnext := hs.after hfirst
    unfold Outcome.andThen
    -- a clause that stops is the last one
    split
    · rename_i hend
      rw [ite_cond_eq_true _ _ (eq_true hend)] at hmeets
      refine ⟨fun v hv => ?_, fun v hv => ?_⟩
      · have hpass := Keeping.passes_visitsControl inner hs hmeets.1 v hv
        exact hpass.until (Keeping.writes_walkParts rest (hpass.outside hs.has hnext)
          (fun _ _ => trivial) (fun _ _ _ _ => trivial) hmeets.2)
      · exact (Keeping.passes_visitsParts rest hnext hmeets.2 v hv).since hfirst
    · exact ⟨Keeping.passes_visitsControl inner hs hmeets.1, by simp⟩

end

end Store

end ScriptScope
