import ScriptScope.Proofs.Outline

/-!
# The capture is found where the text ends

To ask about an expression, a script is extended by an assignment of it to a name that nothing else
binds, the capture, and this name is looked up from the scope where the text ends.  The capture may
stand in any scope that is still open there.

`EndsAt` describes a walk by the statement that it comes to last: what is written before and after
it, and that the scope of this statement is on the way from the scope of the walk to where the text
ends.  Every walk of readable statements ends in this way (`Standing.endsAt_walkBody`).  Neither
part binds the name of the capture, so it is found, with the value that was inferred for it:
`Analysis.find_capture`.
-/

namespace ScriptScope

namespace Store

variable {ctx : Context} {names : Label → Prop} {s : ScopeId} {st st' : Store} {locals : List Label}

/-! ### Walks that come to no statement -/

theorem Fills.children_eq (h : Fills s locals st st') (t : ScopeId) :
    (st'.scope t).children = (st.scope t).children := by
  by_cases ht : t = s
  · rw [ht, h.children]
  · rw [h.elsewhere t ht]

/-- Filling a scope with names leaves it open where the text ends. -/
theorem Fills.spine (h : Fills s locals st st') {a b : ScopeId} (hspine : st.Spine a b) :
    st'.Spine a b :=
  hspine.of_children_eq h.children_eq

/-- A walk comes to the statement it starts with. -/
theorem visits_ne_nil (s : ScopeId) (stmt : Stmt) (st : Store) : visits s stmt st ≠ [] := by
  cases stmt <;> simp [visits]

mutual

/-- A control statement in which no statement stands binds its targets at most. -/
theorem exists_fills_walkControl (parts : Control) {st : Store} (hs : st.HasScope s)
    (h : visitsControl s parts st = []) :
    ∃ locals, Fills s locals st (walkControl s parts st).store := by
  match parts with
  | .mk none _ => exact ⟨[], .refl s st⟩
  | .mk (some targets) parts =>
    have htargets := (enters_targets targets hs).toFills
    obtain ⟨locals, hrest⟩ := exists_fills_walkParts parts (htargets.hasScope hs) h
    exact ⟨targets ++ locals, htargets.trans hrest⟩

theorem exists_fills_walkParts (parts : List Part) {st : Store} (hs : st.HasScope s)
    (h : visitsParts s parts st = []) :
    ∃ locals, Fills s locals st (walkParts s parts st).store := by
  match parts with
  | [] => exact ⟨[], .refl s st⟩
  | .block body :: rest =>
    rw [visitsParts, List.append_eq_nil_iff] at h
    -- a block without statements is empty
    cases body with
    | nil => exact exists_fills_walkParts rest hs h.2
    | cons stmt others =>
      rw [visitsIn, List.append_eq_nil_iff] at h
      exact absurd h.1.1 (visits_ne_nil s stmt st)
  | .clause inner :: rest =>
    rw [visitsParts, List.append_eq_nil_iff] at h
    obtain ⟨locals, hinner⟩ := exists_fills_walkControl inner hs h.1
    rw [walkParts, Outcome.andThen]
    by_cases hend : (walkControl s inner st).completed = true
    · rw [ite_cond_eq_true _ _ (eq_true hend)] at h ⊢
      obtain ⟨others, hrest⟩ := exists_fills_walkParts rest (hinner.hasScope hs) h.2
      exact ⟨locals ++ others, hinner.trans hrest⟩
    · rw [ite_cond_eq_false _ _ (eq_false hend)]
      exact ⟨locals, hinner⟩

end

/-! ### The statement that a walk comes to last -/

/-- A walk in `s` comes to `v` last.  Apart from what `v` itself writes, only names among `names`
are bound, and the scope of `v` is `s` or one that is open where the text ends. -/
structure EndsAt (names : Label → Prop) (s : ScopeId) (st st' : Store) (v : Visit) : Prop where
  before : Writes (fun _ => True) names st v.before
  after : Writes (fun _ => True) names v.outcome.store st'
  spine : st'.Spine s v.scope

variable {v : Visit} {vs : List Visit}

theorem EndsAt.self (names : Label → Prop) (s : ScopeId) (stmt : Stmt) (st : Store) :
    EndsAt names s st (walkStmt s stmt st).store ⟨s, stmt, st⟩ :=
  ⟨.refl, .refl, .refl⟩

/-- What is written before a walk comes before what it comes to last. -/
theorem EndsAt.of_writes {first : Store} (hwrites : Writes (fun _ => True) names first st)
    (h : EndsAt names s st st' v) : EndsAt names s first st' v :=
  ⟨hwrites.trans h.before, h.after, h.spine⟩

/-- A walk may go on as long as it opens no scope. -/
theorem EndsAt.fills {final : Store} (h : EndsAt names s st st' v)
    (hwrites : Writes (fun _ => True) names st' final) (hfills : Fills s locals st' final) :
    EndsAt names s st final v :=
  ⟨h.before, h.after.trans hwrites, hfills.spine h.spine⟩

/-- A definition ends where its body ends, if there is anything in it. -/
theorem EndsAt.definition {className : Option String} {params : List Label} {body : List Stmt}
    {final : Store} (hs : Standing ctx (fun _ => True) st s)
    (hparams : ∀ label ∈ params, names label)
    (hbody : EndsAt names (st.addChild s className).1
      (bindParams (st.addChild s className).1 params (st.addChild s className).2)
      (st.innerWalk s className params body) v)
    (hwrites : Writes (fun _ => True) names (st.innerWalk s className params body) final)
    (hfills : Fills s locals (st.innerWalk s className params body) final) :
    EndsAt names s st final v := by
  have hopen : Writes (fun _ => True) names st (st.addChild s className).2 :=
    .single (.opened className hs.here hs.has)
  have hbind := (hs.inner className).free.writes_bindParams params hparams
  refine ⟨(hopen.trans hbind).trans hbody.before, hbody.after.trans hwrites, ?_⟩
  -- the new scope is the last child of `s`
  refine Relation.ReflTransGen.head ?_ (hfills.spine hbody.spine)
  rw [hfills.children_eq s]
  exact getLast?_children_innerWalk hs.sound hs.has className params body

/-- Parts of a control statement in which no statement stands do not change where a walk ends. -/
theorem EndsAt.idleParts {rest : List Part} (h : EndsAt names s st st' v)
    (hs : Standing ctx (fun _ => True) st' s) (hread : Part.allReadable rest = true)
    (hnone : visitsParts s rest st' = []) (htargets : ∀ label ∈ Part.targetsIn rest, names label) :
    EndsAt names s st (walkParts s rest st').store v := by
  obtain ⟨locals, hfills⟩ := exists_fills_walkParts rest hs.has hnone
  refine h.fills (hs.writes_walkParts htargets ?_) hfills
  have horder := (Standing.exhausts_visitsParts rest hs hread).stmts
  rw [hnone] at horder
  rw [← horder]
  simp

theorem Standing.endsAt_function (hs : Standing ctx (fun _ => True) st s) {name : String}
    {params : List Label} {body : List Stmt} (hread : Stmt.allReadable body = true)
    (hname : names (some name)) (hparams : ∀ label ∈ params, names label)
    (hbody : EndsAt names (st.addChild s none).1
      (bindParams (st.addChild s none).1 params (st.addChild s none).2)
      (st.innerWalk s none params body) v) :
    EndsAt names s st (walkStmt s (.function name (some params) body) st).store v := by
  obtain ⟨returns, hend⟩ := exists_walkStmt_function s name params hread st
  have hmid := hs.after_innerWalk none params body
  have hinner := ((hs.inner none).after_bindParams params).after_walkBody body
  rw [hend]
  refine .definition hs hparams hbody ?_ (enters_bindVar hmid.has _ _).toFills
  exact hmid.free.writes_bindVar hname ⟨⟨_, rfl, hinner.has⟩, trivial⟩

theorem Standing.endsAt_classDef (hs : Standing ctx (fun _ => True) st s) {name : String}
    {bases : List Expr} {body : List Stmt} (hread : Expr.allReadable bases = true)
    (hname : names (some name))
    (hbody : EndsAt names (st.addChild s (some name)).1 (st.addChild s (some name)).2
      (st.innerWalk s (some name) [] body) v) :
    EndsAt names s st (walkStmt s (.classDef name bases body) st).store v := by
  obtain ⟨superclasses, -, hend⟩ := exists_walkStmt_classDef s name hread body st
  have hmid := hs.after_innerWalk (some name) [] body
  have hinner := (hs.inner (some name)).after_walkBody body
  rw [hend]
  refine EndsAt.definition hs (by simp) hbody ?_ (enters_closeClass hmid.sound hmid.has ..).toFills
  exact hmid.free.writes_closeClass hinner.has hname trivial superclasses

mutual

theorem Standing.endsAt_walkStmt (stmt : Stmt) {s : ScopeId} {st : Store}
    (hs : Standing ctx (fun _ => True) st s) (hread : stmt.readable = true) {vs : List Visit}
    (hvisits : visits s stmt st = vs ++ [v])
    (hnames : ∀ x ∈ vs, ∀ label ∈ x.stmt.binds ctx, names label) :
    EndsAt names s st (walkStmt s stmt st).store v := by
  -- a statement without statements inside is the last one that is come to
  have hself : [⟨s, stmt, st⟩] = vs ++ [v] →
      EndsAt names s st (walkStmt s stmt st).store v := by
    intro h
    obtain ⟨-, -, rfl⟩ | ⟨us, hus, -⟩ := cons_eq_concat h
    · exact .self names s stmt st
    · simp at hus
  cases stmt with
  | function name params body =>
    rw [Stmt.readable, Bool.and_eq_true] at hread
    obtain ⟨params, rfl⟩ := Option.isSome_iff_exists.mp hread.1
    rw [visits] at hvisits
    obtain ⟨-, -, rfl⟩ | ⟨us, hinside, rfl⟩ := cons_eq_concat hvisits
    · exact .self names s _ st
    · rw [List.forall_mem_cons, Stmt.binds, List.forall_mem_cons] at hnames
      refine hs.endsAt_function hread.2 hnames.1.1 hnames.1.2 ?_
      exact Standing.endsAt_walkBody body ((hs.inner none).after_bindParams params) hread.2 hinside
        hnames.2
  | classDef name bases body =>
    rw [Stmt.readable, Bool.and_eq_true] at hread
    rw [visits] at hvisits
    obtain ⟨-, -, rfl⟩ | ⟨us, hinside, rfl⟩ := cons_eq_concat hvisits
    · exact .self names s _ st
    · rw [List.forall_mem_cons] at hnames
      refine hs.endsAt_classDef hread.1 (hnames.1 _ (List.mem_singleton_self _)) ?_
      exact Standing.endsAt_walkBody body (hs.inner (some name)) hread.2 hinside hnames.2
  | decorated definition =>
    rw [visits] at hvisits
    obtain ⟨-, -, rfl⟩ | ⟨us, hinside, rfl⟩ := cons_eq_concat hvisits
    · exact .self names s _ st
    · rw [List.forall_mem_cons] at hnames
      exact Standing.endsAt_walkStmt definition hs hread hinside hnames.2
  | control parts =>
    rw [visits] at hvisits
    obtain ⟨-, -, rfl⟩ | ⟨us, hinside, rfl⟩ := cons_eq_concat hvisits
    · exact .self names s _ st
    · rw [List.forall_mem_cons] at hnames
      exact Standing.endsAt_walkControl parts hs hread hinside hnames.1 hnames.2
  | importNames items => exact hself hvisits
  | importFrom source wildcard items => exact hself hvisits
  | assign items => exact hself hvisits
  | ret value => exact hself hvisits
  | other => exact hself hvisits
  | fault => exact hself hvisits

/-- A walk of readable statements ends at the statement that it comes to last. -/
theorem Standing.endsAt_walkBody (body : List Stmt) {s : ScopeId} {st : Store}
    (hs : Standing ctx (fun _ => True) st s) (hread : Stmt.allReadable body = true)
    {vs : List Visit} (hvisits : visitsIn s body st = vs ++ [v])
    (hnames : ∀ x ∈ vs, ∀ label ∈ x.stmt.binds ctx, names label) :
    EndsAt names s st (walkBody s body st) v := by
  match body with
  | [] => simp [visitsIn] at hvisits
  | stmt :: rest =>
    rw [Stmt.allReadable, Bool.and_eq_true] at hread
    rw [visitsIn] at hvisits
    rw [walkBody]
    -- the last visit is in the rest of the body, unless that is empty
    obtain ⟨hnone, hfirst⟩ | ⟨us, hinside, rfl⟩ := append_eq_concat hvisits
    · cases rest with
      | nil => exact Standing.endsAt_walkStmt stmt hs hread.1 hfirst hnames
      | cons next others =>
        rw [visitsIn, List.append_eq_nil_iff] at hnone
        exact absurd hnone.1 (visits_ne_nil _ _ _)
    · rw [List.forall_mem_append] at hnames
      have hwrites : Writes (fun _ => True) names st (walkStmt s stmt st).store := by
        refine hs.writes_walkStmt ?_
        rw [← (Standing.exhausts_visits stmt hs hread.1).stmts]
        exact List.forall_mem_map.mpr hnames.1
      exact .of_writes hwrites
        (Standing.endsAt_walkBody rest (hs.after_walkStmt stmt) hread.2 hinside hnames.2)

theorem Standing.endsAt_walkControl (parts : Control) {s : ScopeId} {st : Store}
    (hs : Standing ctx (fun _ => True) st s) (hread : parts.readable = true)
    {vs : List Visit} (hvisits : visitsControl s parts st = vs ++ [v])
    (htargets : ∀ label ∈ parts.targets, names label)
    (hnames : ∀ x ∈ vs, ∀ label ∈ x.stmt.binds ctx, names label) :
    EndsAt names s st (walkControl s parts st).store v := by
  match parts with
  | .mk targets parts =>
    rw [Control.readable, Bool.and_eq_true] at hread
    obtain ⟨targets, rfl⟩ := Option.isSome_iff_exists.mp hread.1
    rw [Control.targets, List.forall_mem_append] at htargets
    rw [visitsControl] at hvisits
    exact .of_writes (hs.free.writes_targets targets htargets.1)
      (Standing.endsAt_walkParts parts (hs.after_targets targets) hread.2 hvisits htargets.2 hnames)

theorem Standing.endsAt_walkParts (parts : List Part) {s : ScopeId} {st : Store}
    (hs : Standing ctx (fun _ => True) st s) (hread : Part.allReadable parts = true)
    {vs : List Visit} (hvisits : visitsParts s parts st = vs ++ [v])
    (htargets : ∀ label ∈ Part.targetsIn parts, names label)
    (hnames : ∀ x ∈ vs, ∀ label ∈ x.stmt.binds ctx, names label) :
    EndsAt names s st (walkParts s parts st).store v := by
  match parts with
  | [] => simp [visitsParts] at hvisits
  | .block body :: rest =>
    rw [Part.allReadable, Bool.and_eq_true] at hread
    rw [visitsParts] at hvisits
    rw [walkParts]
    have hnext := hs.after_walkBody body
    obtain ⟨hnone, hfirst⟩ | ⟨us, hinside, rfl⟩ := append_eq_concat hvisits
    · have hbody := Standing.endsAt_walkBody body hs hread.1 hfirst hnames
      exact hbody.idleParts hnext hread.2 hnone htargets
    · rw [List.forall_mem_append] at hnames
      have hwrites : Writes (fun _ => True) names st (walkBody s body st) := by
        refine hs.writes_walkBody ?_
        rw [← (Standing.exhausts_visitsIn body hs hread.1).stmts]
        exact List.forall_mem_map.mpr hnames.1
      exact .of_writes hwrites
        (Standing.endsAt_walkParts rest hnext hread.2 hinside htargets hnames.2)
  | .clause inner :: rest =>
    rw [Part.allReadable, Bool.and_eq_true] at hread
    rw [Part.targetsIn, List.forall_mem_append] at htargets
    have hend : (walkControl s inner st).completed = true :=
      Standing.completed_walkControl inner hs hread.1
    have hnext := hs.after_walkControl inner
    rw [visitsParts, ite_cond_eq_true _ _ (eq_true hend)] at hvisits
    rw [walkParts, andThen_of_completed hend]
    -- parts after the last visit may bind targets, but they open no scope
    obtain ⟨hnone, hfirst⟩ | ⟨us, hinside, rfl⟩ := append_eq_concat hvisits
    · have hinner := Standing.endsAt_walkControl inner hs hread.1 hfirst htargets.1 hnames
      exact hinner.idleParts hnext hread.2 hnone htargets.2
    · rw [List.forall_mem_append] at hnames
      have hwrites : Writes (fun _ => True) names st (walkControl s inner st).store := by
        refine hs.writes_walkControl htargets.1 ?_
        rw [← (Standing.exhausts_visitsControl inner hs hread.1).stmts]
        exact List.forall_mem_map.mpr hnames.1
      exact .of_writes hwrites
        (Standing.endsAt_walkParts rest hnext hread.2 hinside htargets.2 hnames.2)

end

/-! ### Looking the capture up -/

theorem findSome?_eq_of_only {α β : Type} {f : α → Option β} {xs : List α} {a : α} {d : β}
    (ha : a ∈ xs) (hd : f a = some d) (honly : ∀ b, b ≠ a → f b = none) :
    xs.findSome? f = some d := by
  induction xs with
  | nil => simp at ha
  | cons x rest ih =>
    by_cases hx : x = a
    · rw [List.findSome?_cons, hx, hd]
    · rw [List.findSome?_cons, honly x hx]
      exact ih ((List.mem_cons.mp ha).resolve_left fun e => hx e.symm)

/-- A name that one scope alone binds is found below it. -/
theorem find_of_only {t : ScopeId} {label : Label} {d : Descriptor} (hmem : s ∈ st.chain t)
    (hd : (st.scope s).lookup? label = some d)
    (honly : ∀ u, u ≠ s → (st.scope u).lookup? label = none) : st.find t label = .held d :=
  find_of_binding? (findSome?_eq_of_only hmem hd honly)

/-- After an assignment a name is bound to the value, in this scope alone if nothing bound it
before. -/
theorem lookup?_assign (hs : st.HasScope s) (label : Label) (value : Value)
    (hnone : ∀ t, (st.scope t).lookup? label = none) (t : ScopeId) :
    ((st.assign s label value).scope t).lookup? label =
      if t = s then some (st.hold value).1 else none := by
  have hhold : Enters s [] [] st (st.hold value).2 := .of_scopes_eq (scopes_hold st value)
  unfold assign
  split
  · rename_i ht
    rw [ht, ScopeInfo.lookup?, vars_bindVar_self _ _ _ (hhold.hasScope hs), Bindings.get?_bind]
    simp
  · rename_i ht
    rw [scope_bindVar_of_ne _ _ _ ht, hhold.elsewhere t ht, hnone t]

end Store

/-- The statement that assigns an expression to a name. -/
def Stmt.capture (name : String) (value : Expr) : Stmt :=
  .assign [.mk [.name (some name)] (some value)]

namespace Store

theorem walkStmt_capture {st : Store} {s : ScopeId} {name : String} {e : Expr} {value : Value}
    (h : st.infer s e = some value) :
    walkStmt s (.capture name e) st = .done (st.assign s (some name) value) := by
  simp [Stmt.capture, walkStmt, eachInTurn, walkAssignment, bindTargets, h, Outcome.andThen,
    Outcome.done, assign]

/-- A value enters the store as what it is. -/
theorem classOf?_hold (st : Store) (value : Value) :
    (st.hold value).2.classOf? (.held (st.hold value).1) = st.classOf? value := by
  cases value with
  | held d => rfl
  | made info => exact congrArg some (cls_addClass_new st info)

/-- A capture comes to its end only with a value. -/
theorem exists_infer_of_completed {st : Store} {s : ScopeId} {name : String} {e : Expr}
    (h : (walkStmt s (.capture name e) st).completed = true) :
    ∃ value, st.infer s e = some value := by
  cases hinfer : st.infer s e with
  | some value => exact ⟨value, rfl⟩
  | none =>
    simp [Stmt.capture, walkStmt, eachInTurn, walkAssignment, bindTargets, hinfer, Outcome.andThen,
      Outcome.stopped] at h

/-- A walk that ends at a capture, and binds its name nowhere else, leaves it bound in the scope of
the capture alone. -/
theorem EndsAt.lookup?_capture {s : ScopeId} {st st' : Store} {v : Visit} {name : String} {e : Expr}
    {value : Value} (h : EndsAt (· ≠ some name) s st st' v) (hhas : v.before.HasScope v.scope)
    (hstmt : v.stmt = .capture name e)
    (hvalue : v.before.infer v.scope e = some value)
    (hstart : ∀ t, (st.scope t).lookup? (some name) = none) (t : ScopeId) :
    (st'.scope t).lookup? (some name) =
      if t = v.scope then some (v.before.hold value).1 else none := by
  have hout : v.outcome.store = v.before.assign v.scope (some name) value := by
    unfold Visit.outcome
    rw [hstmt, walkStmt_capture hvalue]
    rfl
  have hnone : ∀ t, (v.before.scope t).lookup? (some name) = none := by
    intro t
    rw [h.before.change.lookup t (some name) (by simp)]
    exact hstart t
  -- what comes after the capture does not bind the name either
  rw [h.after.change.lookup t (some name) (by simp), hout]
  exact lookup?_assign hhas (some name) value hnone t

/-- From where the text ends, the scope at which a walk ends is in sight. -/
theorem EndsAt.mem_chain_last {names : Label → Prop} {s : ScopeId} {st st' : Store} {v : Visit}
    (h : EndsAt names s st st' v) (hhas : v.outcome.store.HasScope v.scope) (hst' : st'.Sound) :
    v.scope ∈ st'.chain (st'.last s) := by
  rw [h.spine.last_eq hst']
  exact (Store.mem_chain_last hst' (h.after.change.hasScope hhas)).2

end Store

namespace Analysis

open Store

/-- **The capture is found where the text ends.**  Let the last statement of a readable script, in
the order in which its statements are walked, assign an expression to the capture name, which
nothing else binds.  Then looking this name up from the last scope finds the very descriptor that
was inferred for the expression when the walk came to the assignment, in whatever scope it stands; a
class that was made up for the answer is the one that entered the store there. -/
theorem find_capture (ctx : Context) {body before : List Stmt} {e : Expr}
    (hread : Stmt.allReadable body = true)
    (hlast : Stmt.orderIn body = before ++ [.capture ctx.captureName e])
    (honly : ∀ stmt ∈ before, some ctx.captureName ∉ stmt.binds ctx) :
    ∃ v value, (visitsIn (empty ctx).root body (empty ctx).store).getLast? = some v ∧
      v.stmt = .capture ctx.captureName e ∧ v.before.infer v.scope e = some value ∧
      (ofStatements ctx body).store.find (ofStatements ctx body).last (some ctx.captureName) =
        .held (v.before.hold value).1 ∧
      (v.before.hold value).2.classOf? (.held (v.before.hold value).1) =
        v.before.classOf? value := by
  set root := (empty ctx).root
  set final := walkBody root body (empty ctx).store
  have hstand : Standing ctx (fun _ => True) (empty ctx).store root :=
    standing_empty ctx fun _ => trivial
  have hall := Standing.exhausts_visitsIn body hstand hread
  rw [hlast] at hall
  obtain ⟨vs, v, hvisits, hbefore, hstmt, hcompleted⟩ := hall.exists_last
  have hnames : ∀ x ∈ vs, ∀ label ∈ x.stmt.binds ctx, label ≠ some ctx.captureName := by
    intro x hx label hlabel he
    refine honly x.stmt (hbefore ▸ List.mem_map_of_mem hx) ?_
    rwa [he] at hlabel
  have hends : EndsAt (· ≠ some ctx.captureName) root (empty ctx).store final v :=
    Standing.endsAt_walkBody body hstand hread hvisits hnames
  -- the capture came to its end, so its expression has a value
  obtain ⟨value, hvalue⟩ : ∃ value, v.before.infer v.scope e = some value := by
    unfold Visit.outcome at hcompleted
    rw [hstmt] at hcompleted
    exact exists_infer_of_completed hcompleted
  have hhere : Standing ctx (fun _ => True) v.before v.scope :=
    Standing.of_mem_visitsIn body hstand v (by rw [hvisits]; simp)
  have hlookup := hends.lookup?_capture hhere.has hstmt hvalue fun t => lookup?_empty ctx t _
  refine ⟨v, value, by rw [hvisits, List.getLast?_concat], hstmt, hvalue, ?_, classOf?_hold _ _⟩
  show final.find (final.last root) (some ctx.captureName) = _
  refine find_of_only (hends.mem_chain_last (hhere.after_walkStmt v.stmt).has
    (hstand.after_walkBody body).sound) ?_ ?_
  · rw [hlookup, ite_cond_eq_true _ _ (eq_true rfl)]
  · intro u hu
    rw [hlookup, ite_cond_eq_false _ _ (eq_false hu)]

/-- A script that asks for a parameter behind a function that is finished already. -/
def captureInFunction : List Stmt :=
  [ .importNames [.plain (some "os.path")],
    .function "f" (some [some "x"])
      [ .function "g" (some []) [.assign [.mk [.name (some "y")] (some .integer)]],
        .control (.mk (some [some "i"])
          [.block [.capture "____GRAB____" (.name (some "x"))]]) ] ]

theorem find_captureInFunction :
    Stmt.allReadable captureInFunction = true ∧
    (∀ stmt ∈ (Stmt.orderIn captureInFunction).dropLast, some "____GRAB____" ∉ stmt.binds {}) ∧
    (∃ (v : Visit) (value : Value), v.before.infer v.scope (.name (some "x")) = some value ∧
      (ofStatements {} captureInFunction).store.find (ofStatements {} captureInFunction).last
        (some "____GRAB____") = .held (v.before.hold value).1) ∧
    (ofStatements {} captureInFunction).store.find (ofStatements {} captureInFunction).last
      (some "____GRAB____") = .held (.script ⟨0⟩) := by
  have hread : Stmt.allReadable captureInFunction = true := by decide
  have hlast : Stmt.orderIn captureInFunction = (Stmt.orderIn captureInFunction).dropLast ++
      [.capture "____GRAB____" (.name (some "x"))] := rfl
  have honly : ∀ stmt ∈ (Stmt.orderIn captureInFunction).dropLast,
      some "____GRAB____" ∉ stmt.binds {} := by decide
  obtain ⟨v, value, -, -, hvalue, hfind, -⟩ := find_capture {} hread hlast honly
  exact ⟨hread, honly, ⟨v, value, hvalue, hfind⟩, by decide +kernel⟩

end Analysis

end ScriptScope
