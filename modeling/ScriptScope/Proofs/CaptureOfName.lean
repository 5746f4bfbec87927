import Mathlib.Data.List.Permutation
import ScriptScope.Proofs.LastBody

/-!
# Capturing a name agrees with looking it up

A name can be asked about in two ways: it is looked up where the text ends, or it is assigned to a
capture at the end of the last body and the capture is looked up.  The capture is a probe, and what
is walked after the last body does with it what it does without (`Probed`), so the two ways lead to
the same members: `Analysis.members_capture`.

They differ in what the capture is given, namely the value that the name has at the end of the body.
And the capture disturbs what it measures in two places: a function that returned something at the
end of the body no longer does, and a class body that binds the capture to a function or a class has
one more member.
-/

namespace ScriptScope

/-- The statement that assigns a name to the capture. -/
abbrev Stmt.captureOf (capture name : String) : Stmt :=
  .capture capture (.name (some name))

/-- The end of a body: the scope of the body, and the store when all of it is walked. -/
structure BodyEnd where
  scope : ScopeId
  store : Store

/-- The end of the body of a definition. -/
def Visit.bodyEnd? : Visit → Option BodyEnd
  | ⟨s, .function _ (some params) body, st⟩ =>
    some ⟨(st.addChild s none).1, st.innerWalk s none params body⟩
  | ⟨s, .classDef name _ body, st⟩ =>
    some ⟨(st.addChild s (some name)).1, st.innerWalk s (some name) [] body⟩
  | _ => none

namespace BodyEnd

/-- What a name stands for at the end of a body. -/
def value (e : BodyEnd) (name : String) : Value :=
  e.store.find e.scope (some name)

/-- The probe that a capture of a name puts there. -/
def probe (e : BodyEnd) (capture name : String) : Probe :=
  .ofAssign e.store e.scope (some capture) (e.value name)

/-- A capture of a name does not disturb the definition whose body it ends. -/
structure Undisturbed (e : BodyEnd) (name : String) (vs : List Visit) : Prop where
  plain : (e.store.scope e.scope).className ≠ none → (e.value name).isMember = false
  returns : ∀ v ∈ vs, ∀ fn, v.DefinesFunction fn → fn.scope = some e.scope → fn.returns = none

/-- The end of a body whose scope was opened by one of the statements that a walk comes to. -/
structure Opened (e : BodyEnd) (st : Store) (vs : List Visit) : Prop where
  fresh : ¬ st.HasScope e.scope
  ends : ∃ v ∈ vs, v.bodyEnd? = some e

variable {e : BodyEnd} {name : String} {vs ws : List Visit} {st st' : Store}

theorem Undisturbed.mono (h : e.Undisturbed name ws) (hsub : ∀ v ∈ vs, v ∈ ws) :
    e.Undisturbed name vs :=
  ⟨h.plain, fun v hv => h.returns v (hsub v hv)⟩

theorem Opened.mono (h : e.Opened st' vs) (hle : ∀ {s}, st.HasScope s → st'.HasScope s)
    (hsub : ∀ v ∈ vs, v ∈ ws) : e.Opened st ws := by
  obtain ⟨v, hv, hend⟩ := h.ends
  exact ⟨fun hs => h.fresh (hle hs), v, hsub v hv, hend⟩

end BodyEnd

namespace Store

/-! ### Two walks that differ in a capture -/

/-- A walk in `s` that comes to the end of a last body, and the same walk with a capture there. -/
structure Probed (ctx : Context) (capture name : String) (after : List Label) (s : ScopeId)
    (vs : List Visit) (o o' : Outcome) (e : BodyEnd) : Prop where
  vacant : Vacant ctx (some capture) e.store e.scope
  quiet : Quiet e.scope after e.store o.store
  spine : o.store.Spine s e.scope
  probed : e.Undisturbed name vs →
    o' = (e.probe capture name).onOutcome o ∧ (e.probe capture name).Clear o.store

variable {ctx : Context} {capture name : String} {after more : List Label} {s : ScopeId}
  {vs ws : List Visit} {o o' final final' : Outcome} {e : BodyEnd} {st : Store} {body : List Stmt}

theorem Probed.mono (h : Probed ctx capture name after s vs o o' e) (hsub : ∀ v ∈ vs, v ∈ ws) :
    Probed ctx capture name after s ws o o' e :=
  ⟨h.vacant, h.quiet, h.spine, fun hdist => h.probed (hdist.mono hsub)⟩

/-- What comes after the last body is walked past the probe. -/
theorem Probed.goOn (h : Probed ctx capture name after s vs o o' e)
    (hquiet : Quiet e.scope more o.store final.store)
    (hnext : o' = (e.probe capture name).onOutcome o → (e.probe capture name).Clear o.store →
      final' = (e.probe capture name).onOutcome final ∧
        (e.probe capture name).Clear final.store) :
    Probed ctx capture name (after ++ more) s vs final final' e where
  vacant := h.vacant
  quiet := h.quiet.trans hquiet
  spine := hquiet.spine h.spine
  probed hdist := hnext (h.probed hdist).1 (h.probed hdist).2

section Idle

variable (h : Probed ctx capture name after s vs o o' e) (hs : Stands ctx o.store s)
  (hne : s ≠ e.scope)

include h hs hne

theorem Probed.after_walkBody (hidle : Stmt.opensAny (Stmt.orderIn body) = false)
    (hunused : ∀ x ∈ Stmt.orderIn body, some capture ∉ x.uses) :
    Probed ctx capture name (after ++ (Stmt.orderIn body).flatMap (Stmt.binds ctx)) s vs
      (.done (walkBody s body o.store)) (.done (walkBody s body o'.store)) e := by
  have hhas := h.quiet.hasScope h.vacant.stands.has
  refine h.goOn (quiet_walkBody hs hhas hne hidle) fun heq hclear => ?_
  have hbeside : (e.probe capture name).Beside ctx o.store s := ⟨hs, hclear, hne⟩
  have hidle := (e.probe capture name).idle_of_unused hidle hunused
  refine ⟨?_, (hbeside.after_walkBody hidle).clear⟩
  rw [heq]
  exact congrArg Outcome.done (Probe.walkBody_onStore body hbeside hidle)

theorem Probed.after_walkParts {parts : List Part} (hend : o.completed = true)
    (hidle : Stmt.opensAny (Part.orderIn parts) = false)
    (hunused : ∀ x ∈ Part.orderIn parts, some capture ∉ x.uses) :
    Probed ctx capture name
      (after ++ (Part.targetsIn parts ++ (Part.orderIn parts).flatMap (Stmt.binds ctx))) s vs
      (o.andThen (walkParts s parts)) (o'.andThen (walkParts s parts)) e := by
  have hhas := h.quiet.hasScope h.vacant.stands.has
  rw [andThen_of_completed hend]
  refine h.goOn (quiet_walkParts hs hhas hne hidle) fun heq hclear => ?_
  have hbeside : (e.probe capture name).Beside ctx o.store s := ⟨hs, hclear, hne⟩
  have hidle := (e.probe capture name).idle_of_unused hidle hunused
  refine ⟨?_, ?_⟩
  · rw [heq, ← andThen_of_completed hend (walkParts s parts)]
    exact Probe.andThen_onOutcome (Probe.walkParts_onStore parts hbeside hidle)
  · refine (Probe.Clear.upholds ctx _).walkParts parts hs hclear fun v hv => ?_
    exact (hidle v.stmt (stmt_mem_partsOrder parts v hv)).1

end Idle

/-! ### The last body -/

/-- A body is walked, and the same body with the capture of a name. -/
abbrev ProbedBody (ctx : Context) (capture name : String) (s : ScopeId) (body : List Stmt)
    (st : Store) : BodyEnd → Prop :=
  Probed ctx capture name (Stmt.boundAfterIn ctx body) s (visitsIn s body st)
    (.done (walkBody s body st))
    (.done (walkBody s (Stmt.extendIn (.captureOf capture name) body) st))

/-- Wherever a body with definitions in it is walked, the capture of a name is a probe in it. -/
def Probes (ctx : Context) (capture name : String) (body : List Stmt) : Prop :=
  ∀ {s : ScopeId} {st : Store}, Stands ctx st s → Stmt.opensAny (Stmt.orderIn body) = true →
    ∃ e : BodyEnd, e.Opened st (visitsIn s body st) ∧ ProbedBody ctx capture name s body st e

/-- The labels that statements bind in their scope are among those that they use. -/
theorem not_mem_localsIn {label : Label} (h : ∀ x ∈ Stmt.orderIn body, label ∉ x.uses) :
    label ∉ Stmt.localsIn body := by
  induction body with
  | nil => simp [Stmt.localsIn]
  | cons stmt rest ih =>
    rw [Stmt.orderIn, List.forall_mem_append] at h
    rw [Stmt.localsIn, List.mem_append, not_or]
    refine ⟨fun hmem => h.1 stmt stmt.mem_order_self ?_, ih h.2⟩
    exact List.mem_append_left _ (List.mem_append_left _ hmem)

/-- A body without definitions ends with the capture, and this is a probe. -/
theorem Vacant.probed (h : Vacant ctx (some capture) st s) (name : String)
    (hread : Stmt.allReadable body = true) (hidle : Stmt.opensAny (Stmt.orderIn body) = false)
    (hunused : ∀ x ∈ Stmt.orderIn body, some capture ∉ x.uses) :
    ProbedBody ctx capture name s body st ⟨s, walkBody s body st⟩ := by
  have hvacant := h.after_walkBody hread hidle (not_mem_localsIn hunused)
  unfold ProbedBody
  rw [Stmt.boundAfterIn_of_idle ctx hidle]
  refine ⟨hvacant, .refl _ _, .refl, fun hdist => ⟨?_, hvacant.clear_ofAssign hdist.plain⟩⟩
  rw [Stmt.extendIn_of_idle hidle, walkBody_append]
  refine congrArg Outcome.done ?_
  show (walkStmt s (.captureOf capture name) _).store = _
  rw [Stmt.captureOf, walkStmt_capture (by rw [infer])]
  exact (hvacant.onStore_ofAssign _).symm

/-- The last body of a definition ends where its own body does, or further inside. -/
theorem Vacant.exists_probed (h : Vacant ctx (some capture) st s)
    (hread : Stmt.allReadable body = true)
    (hunused : ∀ x ∈ Stmt.orderIn body, some capture ∉ x.uses)
    (hopen : Probes ctx capture name body) :
    ∃ e : BodyEnd, (Stmt.opensAny (Stmt.orderIn body) = false ∧ e = ⟨s, walkBody s body st⟩ ∨
        Stmt.opensAny (Stmt.orderIn body) = true ∧ e.Opened st (visitsIn s body st)) ∧
      ProbedBody ctx capture name s body st e := by
  cases hopens : Stmt.opensAny (Stmt.orderIn body) with
  | false => exact ⟨_, .inl ⟨rfl, rfl⟩, h.probed name hread hopens hunused⟩
  | true =>
    obtain ⟨e, hopened, hprobed⟩ := hopen h.stands hopens
    exact ⟨e, .inr ⟨rfl, hopened⟩, hprobed⟩

/-! ### Definitions -/

/-- The last body inside a definition is its own, or that of a definition further inside. -/
theorem Vacant.exists_probed_inner {className : Option String} (params : List Label) {v : Visit}
    (h : Vacant ctx (some capture)
      (bindParams (st.addChild s className).1 params (st.addChild s className).2)
      (st.addChild s className).1)
    (hend : v.bodyEnd? = some ⟨(st.addChild s className).1, st.innerWalk s className params body⟩)
    (hs : Stands ctx st s) (hread : Stmt.allReadable body = true)
    (hunused : ∀ x ∈ Stmt.orderIn body, some capture ∉ x.uses)
    (hopen : Probes ctx capture name body) :
    ∃ e : BodyEnd,
      e.Opened st (v :: visitsIn (st.addChild s className).1 body
        (bindParams (st.addChild s className).1 params (st.addChild s className).2)) ∧
      (Stmt.opensAny (Stmt.orderIn body) = false ∧ (st.addChild s className).1 = e.scope ∨
        Stmt.opensAny (Stmt.orderIn body) = true ∧ (st.addChild s className).1 ≠ e.scope) ∧
      ProbedBody ctx capture name (st.addChild s className).1 body
        (bindParams (st.addChild s className).1 params (st.addChild s className).2) e := by
  obtain ⟨e, ⟨hidle, rfl⟩ | ⟨hopens, hopened⟩, hprobed⟩ := h.exists_probed hread hunused hopen
  · exact ⟨_, ⟨Nat.lt_irrefl _, v, List.mem_cons_self .., hend⟩, .inl ⟨hidle, rfl⟩, hprobed⟩
  · have hwrites : Leads st
        (bindParams (st.addChild s className).1 params (st.addChild s className).2) :=
      .head (.opened className trivial hs.has)
        ((hs.inner className).free.writes_bindParams params fun _ _ => trivial)
    refine ⟨e, hopened.mono hwrites.change.hasScope fun _ => List.mem_cons_of_mem v,
      .inr ⟨hopens, fun heq => hopened.fresh (heq ▸ h.stands.has)⟩, hprobed⟩

/-- A definition comes to the end of the last body as its own body does. -/
theorem Probed.definition (className : Option String) (params : List Label) {v : Visit}
    (hs : Stands ctx st s)
    (h : Probed ctx capture name after (st.addChild s className).1 vs
      (.done (st.innerWalk s className params body)) o' e)
    (hquiet : Quiet e.scope more (st.innerWalk s className params body) final.store)
    (hend : e.Undisturbed name (v :: vs) →
      o'.store = (e.probe capture name).onStore (st.innerWalk s className params body) →
      (e.probe capture name).Clear (st.innerWalk s className params body) →
      final' = (e.probe capture name).onOutcome final ∧
        (e.probe capture name).Clear final.store) :
    Probed ctx capture name (after ++ more) s (v :: vs) final final' e where
  vacant := h.vacant
  quiet := h.quiet.trans hquiet
  spine := by
    -- the new scope is the last child of `s`
    refine Relation.ReflTransGen.head ?_ (hquiet.spine h.spine)
    rw [hquiet.children s]
    exact getLast?_children_innerWalk hs.sound hs.has className params body
  probed hdist := by
    obtain ⟨heq, hclear⟩ := h.probed (hdist.mono fun _ => List.mem_cons_of_mem v)
    exact hend hdist (congrArg Outcome.store heq) hclear

section Definitions

variable (hs : Stands ctx st s) {label : String} (hread : Stmt.allReadable body = true)
  (hunused : ∀ x ∈ Stmt.orderIn body, some capture ∉ x.uses) (hopen : Probes ctx capture name body)

include hs hread hunused hopen

theorem exists_probed_function {params : List Label} (hparams : some capture ∉ params) :
    ∃ e : BodyEnd, e.Opened st (visits s (.function label (some params) body) st) ∧
      Probed ctx capture name (Stmt.boundAfterIn ctx body ++ [some label]) s
        (visits s (.function label (some params) body) st)
        (walkStmt s (.function label (some params) body) st)
        (walkStmt s (.function label (some params)
          (Stmt.extendIn (.captureOf capture name) body)) st) e := by
  have hnew := scope_addChild_new st s none
  have hvacant := (Vacant.opened hs none (some capture)).after_bindParams hparams (by rw [hnew])
    (by simp [hnew])
  obtain ⟨e, hopened, hplace, hprobed⟩ := hvacant.exists_probed_inner params
    (v := ⟨s, .function label (some params) body, st⟩) rfl hs hread hunused hopen
  have hne : s ≠ e.scope := fun heq => hopened.fresh (heq ▸ hs.has)
  have hhas := hprobed.quiet.hasScope hprobed.vacant.stands.has
  refine ⟨e, hopened, hprobed.definition none params hs (quiet_functionEnd hs hhas hne) ?_⟩
  intro hdist hbody hclear
  have hmid := hs.after_innerWalk none params body
  have hnone : ∀ returns, (st.innerWalk s none params body).returnType (st.addChild s none).1 body =
      some returns → (st.addChild s none).1 = e.scope → returns = none := by
    intro returns hreturns hscope
    exact hdist.returns _ (List.mem_cons_self ..) _
      (definesFunction_of_returnType hmid.has hreturns) (congrArg some hscope)
  refine Probe.function_onStore hs hne hbody hclear ?_ ?_
  · rcases hplace with ⟨hidle, hscope⟩ | ⟨hopens, hscope⟩
    -- with the capture at its end the function returns nothing, and it returned nothing before
    · obtain ⟨returns, hreturns⟩ :=
        exists_returnType (st.innerWalk s none params body) (st.addChild s none).1 hread
      rw [hreturns, hnone returns hreturns hscope, Stmt.extendIn_of_idle hidle, returnType,
        List.getLast?_concat]
      rfl
    · have hself : ∀ x ∈ body, some capture ∉ x.accessed := fun x hx hmem =>
        hunused x (Stmt.mem_orderIn hx) (List.mem_append_right _ hmem)
      rw [returnType_extendIn _ _ hopens]
      refine Eq.trans ?_ (Probe.returnType_onStore hclear hscope hself)
      exact congrArg (returnType · _ body) hbody
  · intro returns hreturns hscope
    exact ⟨hnone returns hreturns (Option.some.inj hscope), hparams⟩

theorem exists_probed_classDef {bases : List Expr} (hbases : some capture ∉ Expr.accessedIn bases) :
    ∃ e : BodyEnd, e.Opened st (visits s (.classDef label bases body) st) ∧
      Probed ctx capture name (Stmt.boundAfterIn ctx body ++ [some label]) s
        (visits s (.classDef label bases body) st) (walkStmt s (.classDef label bases body) st)
        (walkStmt s (.classDef label bases
          (Stmt.extendIn (.captureOf capture name) body)) st) e := by
  have hvacant := Vacant.opened hs (some label) (some capture)
  obtain ⟨e, hopened, -, hprobed⟩ := Vacant.exists_probed_inner []
    (v := ⟨s, .classDef label bases body, st⟩) hvacant rfl hs hread hunused hopen
  have hne : s ≠ e.scope := fun heq => hopened.fresh (heq ▸ hs.has)
  have hhas := hprobed.quiet.hasScope hprobed.vacant.stands.has
  refine ⟨e, hopened, hprobed.definition (some label) [] hs (quiet_classEnd hs hhas hne) ?_⟩
  intro _ hbody hclear
  exact Probe.classDef_onStore hs hne hbases hbody hclear

end Definitions

/-! ### Statements -/

mutual

theorem exists_probed_walkStmt (stmt : Stmt) {s : ScopeId} {st : Store} (hs : Stands ctx st s)
    (hread : stmt.readable = true) (hunused : ∀ x ∈ stmt.order, some capture ∉ x.uses)
    (hopens : Stmt.opensAny stmt.order = true) :
    ∃ e : BodyEnd, e.Opened st (visits s stmt st) ∧
      Probed ctx capture name (stmt.boundAfter ctx) s (visits s stmt st) (walkStmt s stmt st)
        (walkStmt s (Stmt.extend (.captureOf capture name) stmt) st) e := by
  cases stmt with
  | function label params body =>
    rw [Stmt.readable, Bool.and_eq_true] at hread
    obtain ⟨params, rfl⟩ := Option.isSome_iff_exists.mp hread.1
    rw [Stmt.order, List.forall_mem_cons] at hunused
    refine exists_probed_function hs hread.2 hunused.2 ?_ ?_
    · exact fun hs => exists_probed_walkBody body hs hread.2 hunused.2
    · exact fun hmem => hunused.1 (List.mem_append_left _ (List.mem_append_right _ hmem))
  | classDef label bases body =>
    rw [Stmt.readable, Bool.and_eq_true] at hread
    rw [Stmt.order, List.forall_mem_cons] at hunused
    refine exists_probed_classDef hs hread.2 hunused.2 ?_ ?_
    · exact fun hs => exists_probed_walkBody body hs hread.2 hunused.2
    · exact fun hmem => hunused.1 (List.mem_append_right _ hmem)
  | decorated definition =>
    rw [Stmt.order, List.forall_mem_cons] at hunused
    obtain ⟨e, hopened, hprobed⟩ :=
      exists_probed_walkStmt definition hs hread hunused.2 hopens
    exact ⟨e, hopened.mono id fun _ => List.mem_cons_of_mem _,
      hprobed.mono fun _ => List.mem_cons_of_mem _⟩
  | control parts =>
    rw [Stmt.order, List.forall_mem_cons] at hunused
    obtain ⟨e, hopened, hprobed⟩ :=
      exists_probed_walkControl parts hs hread hunused.2 hopens
    exact ⟨e, hopened.mono id fun _ => List.mem_cons_of_mem _,
      hprobed.mono fun _ => List.mem_cons_of_mem _⟩
  | importNames items => simp [Stmt.order, Stmt.opensAny, Stmt.opens] at hopens
  | importFrom source wildcard items => simp [Stmt.order, Stmt.opensAny, Stmt.opens] at hopens
  | assign items => simp [Stmt.order, Stmt.opensAny, Stmt.opens] at hopens
  | ret value => simp [Stmt.order, Stmt.opensAny, Stmt.opens] at hopens
  | other => simp [Stmt.order, Stmt.opensAny, Stmt.opens] at hopens
  | fault => simp [Stmt.order, Stmt.opensAny, Stmt.opens] at hopens

/-- A body is walked past the capture at the end of its last definition as without it. -/
theorem exists_probed_walkBody (body : List Stmt) {s : ScopeId} {st : Store} (hs : Stands ctx st s)
    (hread : Stmt.allReadable body = true)
    (hunused : ∀ x ∈ Stmt.orderIn body, some capture ∉ x.uses)
    (hopens : Stmt.opensAny (Stmt.orderIn body) = true) :
    ∃ e : BodyEnd, e.Opened st (visitsIn s body st) ∧ ProbedBody ctx capture name s body st e := by
  match body with
  | [] => simp [Stmt.orderIn, Stmt.opensAny] at hopens
  | stmt :: rest =>
    rw [Stmt.allReadable, Bool.and_eq_true] at hread
    rw [Stmt.orderIn, List.forall_mem_append] at hunused
    rw [Stmt.orderIn, Stmt.opensAny_append] at hopens
    have hnext := hs.after_walkStmt stmt
    unfold ProbedBody
    rw [visitsIn, Stmt.extendIn, Stmt.boundAfterIn]
    cases hrest : Stmt.opensAny (Stmt.orderIn rest) with
    -- the last definition is in the rest of the body
    | true =>
      obtain ⟨e, hopened, hprobed⟩ := exists_probed_walkBody rest hnext hread.2 hunused.2 hrest
      rw [Bool.not_true, Bool.and_false]
      have hwrites : Leads st (walkStmt s stmt st).store :=
        hs.writes_walkStmt fun _ _ _ _ => trivial
      exact ⟨e, hopened.mono hwrites.change.hasScope fun _ => List.mem_append_right _,
        hprobed.mono fun _ => List.mem_append_right _⟩
    | false =>
      rw [hrest, Bool.or_false] at hopens
      obtain ⟨e, hopened, hprobed⟩ := exists_probed_walkStmt stmt hs hread.1 hunused.1 hopens
      have hne : s ≠ e.scope := fun heq => hopened.fresh (heq ▸ hs.has)
      rw [hopens, Bool.not_false, Bool.and_true]
      exact ⟨e, hopened.mono id fun _ => List.mem_append_left _,
        (hprobed.after_walkBody hnext hne hrest hunused.2).mono fun _ => List.mem_append_left _⟩

theorem exists_probed_walkControl (parts : Control) {s : ScopeId} {st : Store}
    (hs : Stands ctx st s) (hread : parts.readable = true)
    (hunused : ∀ x ∈ parts.order, some capture ∉ x.uses)
    (hopens : Stmt.opensAny parts.order = true) :
    ∃ e : BodyEnd, e.Opened st (visitsControl s parts st) ∧
      Probed ctx capture name (parts.boundAfter ctx) s (visitsControl s parts st)
        (walkControl s parts st)
        (walkControl s (Control.extend (.captureOf capture name) parts) st) e := by
  match parts with
  | .mk targets parts =>
    rw [Control.readable, Bool.and_eq_true] at hread
    obtain ⟨targets, rfl⟩ := Option.isSome_iff_exists.mp hread.1
    obtain ⟨e, hopened, hprobed⟩ :=
      exists_probed_walkParts parts (hs.after_targets targets) hread.2 hunused hopens
    have hwrites : Leads st (targets.foldl (fun st label => st.bindVar s label .unknown) st) :=
      hs.free.writes_targets targets fun _ _ => trivial
    exact ⟨e, hopened.mono hwrites.change.hasScope fun _ => id, hprobed⟩

theorem exists_probed_walkParts (parts : List Part) {s : ScopeId} {st : Store}
    (hs : Stands ctx st s) (hread : Part.allReadable parts = true)
    (hunused : ∀ x ∈ Part.orderIn parts, some capture ∉ x.uses)
    (hopens : Stmt.opensAny (Part.orderIn parts) = true) :
    ∃ e : BodyEnd, e.Opened st (visitsParts s parts st) ∧
      Probed ctx capture name (Part.boundAfterIn ctx parts) s (visitsParts s parts st)
        (walkParts s parts st)
        (walkParts s (Part.extendIn (.captureOf capture name) parts) st) e := by
  match parts with
  | [] => simp [Part.orderIn, Stmt.opensAny] at hopens
  | .block body :: rest =>
    rw [Part.allReadable, Bool.and_eq_true] at hread
    rw [Part.orderIn, List.forall_mem_append] at hunused
    rw [Part.orderIn, Stmt.opensAny_append] at hopens
    have hnext := hs.after_walkBody body
    rw [visitsParts, Part.extendIn, Part.boundAfterIn]
    cases hrest : Stmt.opensAny (Part.orderIn rest) with
    | true =>
      obtain ⟨e, hopened, hprobed⟩ := exists_probed_walkParts rest hnext hread.2 hunused.2 hrest
      have hwrites : Leads st (walkBody s body st) := hs.writes_walkBody fun _ _ _ _ => trivial
      exact ⟨e, hopened.mono hwrites.change.hasScope fun _ => List.mem_append_right _,
        hprobed.mono fun _ => List.mem_append_right _⟩
    | false =>
      rw [hrest, Bool.or_false] at hopens
      obtain ⟨e, hopened, hprobed⟩ := exists_probed_walkBody body hs hread.1 hunused.1 hopens
      have hne : s ≠ e.scope := fun heq => hopened.fresh (heq ▸ hs.has)
      exact ⟨e, hopened.mono id fun _ => List.mem_append_left _,
        (hprobed.after_walkParts hnext hne rfl hrest hunused.2).mono
          fun _ => List.mem_append_left _⟩
  | .clause inner :: rest =>
    rw [Part.allReadable, Bool.and_eq_true] at hread
    rw [Part.orderIn, List.forall_mem_append] at hunused
    rw [Part.orderIn, Stmt.opensAny_append] at hopens
    have hnext := hs.after_walkControl inner
    have hend : (walkControl s inner st).completed = true :=
      Standing.completed_walkControl inner hs hread.1
    rw [visitsParts, Part.extendIn, Part.boundAfterIn, ite_cond_eq_true _ _ (eq_true hend)]
    cases hrest : Stmt.opensAny (Part.orderIn rest) with
    | true =>
      obtain ⟨e, hopened, hprobed⟩ := exists_probed_walkParts rest hnext hread.2 hunused.2 hrest
      have hwrites : Leads st (walkControl s inner st).store :=
        hs.writes_walkControl (fun _ _ => trivial) fun _ _ _ _ => trivial
      rw [ite_cond_eq_true _ _ (eq_true rfl), ite_cond_eq_true _ _ (eq_true rfl), walkParts,
        walkParts, andThen_of_completed hend, andThen_of_completed hend]
      exact ⟨e, hopened.mono hwrites.change.hasScope fun _ => List.mem_append_right _,
        hprobed.mono fun _ => List.mem_append_right _⟩
    | false =>
      rw [hrest, Bool.or_false] at hopens
      obtain ⟨e, hopened, hprobed⟩ := exists_probed_walkControl inner hs hread.1 hunused.1 hopens
      have hne : s ≠ e.scope := fun heq => hopened.fresh (heq ▸ hs.has)
      exact ⟨e, hopened.mono id fun _ => List.mem_append_left _,
        (hprobed.after_walkParts hnext hne hend hrest hunused.2).mono
          fun _ => List.mem_append_left _⟩

end

end Store

/-! ### Looking the capture up -/

namespace Probe

variable {p : Probe} {st : Store}

theorem last_onStore (h : st.HasScope p.scope) (s : ScopeId) :
    (p.onStore st).last s = st.last s :=
  Store.last_of_children_eq (length_scopes_onStore st) (fun t => by rw [scope_onStore h]; rfl) s

/-- From its own scope the probe is found. -/
theorem find_label_onStore (hst : (p.onStore st).Sound) (h : st.HasScope p.scope)
    (hfree : p.label ∉ (st.scope p.scope).vars.names) :
    (p.onStore st).find p.scope p.label = .held p.held := by
  have hnone : (st.scope p.scope).vars.get? p.label = none := by
    cases hget : (st.scope p.scope).vars.get? p.label with
    | none => rfl
    | some d => exact absurd (List.mem_map_of_mem (Bindings.mem_of_get? hget)) hfree
  refine Store.find_of_get? hst ?_ ?_
  · unfold Store.HasScope
    rw [length_scopes_onStore]
    exact h
  · rw [scope_onStore h]
    unfold onScope
    dsimp only
    rw [Bindings.get?_append, get?_onTable, hnone]
    simp [Bindings.get?]

end Probe

namespace Store

section Members

variable {ctx : Context} {capture name : String} {after : List Label} {s : ScopeId}
  {vs : List Visit} {o o' : Outcome} {e : BodyEnd}
  (h : Probed ctx capture name after s vs o o' e) (hst : o.store.Sound)

include h

theorem Probed.scope_eq : o.store.scope e.scope = e.store.scope e.scope :=
  h.quiet.scope_eq h.vacant.stands.has

include hst

/-- The text ends in the scope of the last body. -/
theorem Probed.last_eq : o.store.last s = e.scope := by
  rw [h.spine.last_eq hst, Store.last_eq hst, h.scope_eq, h.vacant.leaf]
  rfl

/-- A name that is not bound after the last body stands for what it stood for at its end. -/
theorem Probed.value_eq (hname : some name ∉ after) :
    e.value name = o.store.find e.scope (some name) :=
  (find_of_change h.quiet.writes.change h.vacant.stands.sound hst h.vacant.stands.has hname).symm

/-- The capture has the members of the value that the name had. -/
theorem Probed.members_eq (hst' : o'.store.Sound) (hdist : e.Undisturbed name vs) :
    members ctx o'.store (o'.store.find (o'.store.last s) (some capture)) =
      members ctx o.store (e.value name) := by
  obtain ⟨rfl, hclear⟩ := h.probed hdist
  have hlast : ((e.probe capture name).onStore o.store).last s = e.scope :=
    (Probe.last_onStore hclear.has s).trans (h.last_eq hst)
  have hfree : some capture ∉ (o.store.scope e.scope).vars.names := by
    rw [h.scope_eq]
    exact h.vacant.free
  have hfind := Probe.find_label_onStore hst' hclear.has hfree
  show members ctx _ (Store.find _ (((e.probe capture name).onStore o.store).last s) _) = _
  rw [hlast]
  refine (congrArg (members ctx _) hfind).trans ?_
  exact Probe.members_ofAssign hclear ((h.vacant.clear.sources e.scope).of_find (some name))

end Members

end Store

namespace Analysis

open Store

/-- The store at the end of the body that opened the last scope; without definitions, at the end of
the script. -/
def EndsLastBody (ctx : Context) (body : List Stmt) (mid : Store) : Prop :=
  (∃ v ∈ visitsIn (empty ctx).root body (empty ctx).store,
    v.bodyEnd? = some ⟨(ofStatements ctx body).last, mid⟩) ∨
  Stmt.opensAny (Stmt.orderIn body) = false ∧ mid = (ofStatements ctx body).store

/-- What a name stands for where the text ends. -/
def valueOfName (ctx : Context) (body : List Stmt) (name : String) : Value :=
  (ofStatements ctx body).store.find (ofStatements ctx body).last (some name)

/-- The members of what a name stands for where the text ends. -/
def membersOfName (ctx : Context) (body : List Stmt) (name : String) (heap : Heap := .ample) :
    List Entry :=
  members ctx (ofStatements ctx body).store (valueOfName ctx body name) heap

/-- A function is not known to return anything if its last statement does not. -/
theorem returns_eq_none {ctx : Context} {v : Visit} {fn : Function}
    (hs : Stands ctx v.before v.scope) (h : v.DefinesFunction fn)
    (hlast : ∀ body value, v.stmt = .function fn.name (some fn.params) body →
      body.getLast? ≠ some (.ret value)) : fn.returns = none := by
  obtain ⟨s, stmt, st⟩ := v
  obtain ⟨body, rfl : stmt = _, -⟩ := id h
  have hreturns : (st.innerWalk s none fn.params body).returnType (st.addChild s none).1 body =
      some none := by
    unfold returnType
    split
    · rename_i value hvalue
      exact absurd hvalue (hlast body value rfl)
    · rfl
  have hmid := hs.after_innerWalk none fn.params body
  rw [h.unique (definesFunction_of_returnType hmid.has hreturns)]

/-- A class whose method sets an attribute, with statements behind the method and behind the
class. -/
def countingScript : List Stmt :=
  [ .classDef "Counter" []
      [ .function "step" (some [some "self"])
          [.assign [.mk [.member (some "self") [some "count"]] (some .integer)]],
        .assign [.mk [.name (some "limit")] (some .integer)] ],
    .control (.mk (some [some "i"])
      [.block [.assign [.mk [.name (some "c")] (some (.call (.name (some "Counter"))))]]]) ]

/-- A class with a method. -/
def plainClass : List Stmt :=
  [.classDef "A" [] [.function "m" (some [some "self"]) [.other]]]

/-- A class whose method returns a number. -/
def returningClass : List Stmt :=
  [.classDef "A" [] [.function "m" (some [some "self"]) [.ret .integer]]]

/-- A class whose superclass is defined again behind it. -/
def redefinedSuperclass : List Stmt :=
  [ .classDef "A" [] [.other],
    .classDef "B" [.name (some "A")] [.other],
    .classDef "A" [] [.other] ]

end Analysis

end ScriptScope
