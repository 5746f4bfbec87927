import ScriptScope.Proofs.Outline

/-!
# What a walk upholds

A property of stores holds after a walk if every single thing that a walk does upholds it.  Most of
these things bind values, and which property a binding has depends on the value, so a property of
values goes with it: `Upholds` lists what has to be shown of the two, one field for each thing that
a walk does.  The values are those that an expression is inferred to be; they may be bound some time
after they were inferred, so what is known of them has to last.

The main result is `Upholds.walkBody`: the property then holds wherever a walk leads from a store
that has it.
-/

namespace ScriptScope

/-- The class name of the scope that a statement opens, if it opens one. -/
def Stmt.opens : Stmt → Option (Option String)
  | .function _ _ _ => some none
  | .classDef name _ _ => some (some name)
  | _ => none

/-- The members that a target registers on the way. -/
def Pattern.path : Pattern → List Label
  | .member _ path => path
  | .name _ | .group _ | .splat _ | .other | .fault => []

/-- The members that an assignment registers. -/
def Assignment.registered : Assignment → List Label
  | .mk targets (some _) => targets.flatMap Pattern.path
  | .mk _ none | .fault => []

/-- The members that a statement registers itself. -/
def Stmt.registered : Stmt → List Label
  | .assign items => items.flatMap Assignment.registered
  | _ => []

namespace Store

/-- Any writes at all. -/
abbrev Leads : Store → Store → Prop := Writes (fun _ => True) (fun _ => True)

/-- A walk stands in a scope, and may write anywhere. -/
abbrev Stands (ctx : Context) : Store → ScopeId → Prop := Standing ctx (fun _ => True)

/-- Registering one of these members with a class upholds a property of stores. -/
def Registers (I : Store → Prop) (members : List Label) : Prop :=
  ∀ st id member, some member ∈ members → I st → I (st.modifyClass id (·.put (some member)))

theorem Registers.mono {I : Store → Prop} {members others : List Label} (h : Registers I members)
    (hsub : ∀ label ∈ others, label ∈ members) : Registers I others :=
  fun st id member hmember => h st id member (hsub _ hmember)

/-- A property of stores that every single thing a walk does upholds, as long as the statements that
the walk comes to have a property `P`.  What is bound has the property `V`. -/
structure Upholds (ctx : Context) (P : Visit → Prop) (I : Store → Prop)
    (V : Store → Value → Prop) : Prop where
  inferred : ∀ {st s e v}, Stands ctx st s → I st → st.infer s e = some v → V st v
  unknown : ∀ {st}, V st .unknown
  stored : ∀ {st id}, st.HasClass id → V st (.held (.script id))
  /-- What is known of a value lasts. -/
  lasts : ∀ {st st' v}, st.Sound → V st v → Leads st st' → V st' v
  var : ∀ {st s label d}, Stands ctx st s → I st → V st (.held d) →
    Leads st (st.bindVar s label d) → I (st.bindVar s label d)
  imported : ∀ {st s label name}, Stands ctx st s → I st →
    I (st.bindImport s label (.static name))
  registered : ∀ {v}, P v → Registers I v.stmt.registered
  opened : ∀ {st s stmt className}, P ⟨s, stmt, st⟩ → stmt.opens = some className →
    Stands ctx st s → I st → I (st.addChild s className).2
  made : ∀ {st info}, st.Sound → I st → V st (.made info) → Leads st (st.addClass info).2 →
    I (st.addClass info).2
  /-- A parameter is bound in the scope of its function. -/
  parameter : ∀ {st s}, st.HasScope s → (st.scope s).className = none →
    (st.scope s).parent ≠ none → V st (.made (.placeholder s))
  /-- A function is bound once its body is walked. -/
  function : ∀ {st s name params body returns},
    P ⟨s, .function name (some params) body, st⟩ → Stands ctx st s →
    I (st.innerWalk s none params body) →
    (st.innerWalk s none params body).returnType (st.addChild s none).1 body = some returns →
    V (st.innerWalk s none params body)
      (.held (.function ⟨name, returns, params, some (st.addChild s none).1⟩))
  /-- A class is made once its body is walked, and unified with its receivers. -/
  closed : ∀ {st s name bases body superclasses},
    P ⟨s, .classDef name bases body, st⟩ → Stands ctx st s →
    I (st.innerWalk s (some name) [] body) →
    (st.innerWalk s (some name) [] body).baseNames s bases = some superclasses →
    let mid := st.innerWalk s (some name) [] body
    let inner := (st.addChild s (some name)).1
    let opened := mid.addClass (mid.classOfBody inner name superclasses)
    let found := mid.receivers (mid.scope inner).vars
    I ((opened.2.gather opened.1 found).spread opened.1 found)

namespace Upholds

variable {ctx : Context} {P : Visit → Prop} {I : Store → Prop} {V : Store → Value → Prop}
  {st : Store} {s : ScopeId}

/-- A value that can be bound, and of which the property is known. -/
structure Known (V : Store → Value → Prop) (st : Store) (v : Value) : Prop where
  admitted : st.Admits .free v
  holds : V st v

section Steps

variable (h : Upholds ctx P I V)

include h

theorem known_inferred (hs : Stands ctx st s) (hI : I st) {e : Expr} {v : Value}
    (hv : st.infer s e = some v) : Known V st v :=
  ⟨hs.free.admits_infer hv, h.inferred hs hI hv⟩

theorem known_after {st' : Store} {v : Value} (hst : st.Sound) (hv : Known V st v)
    (hleads : Leads st st') : Known V st' v :=
  ⟨hv.admitted.after hleads.change, h.lasts hst hv.holds hleads⟩

/-! ### Bindings -/

/-- A value enters the store. -/
theorem hold {v : Value} (hst : st.Sound) (hI : I st) (hv : Known V st v) :
    I (st.hold v).2 ∧ Known V (st.hold v).2 (.held (st.hold v).1) := by
  refine ⟨?_, admits_hold hv.admitted, ?_⟩
  · cases v with
    | held d => exact hI
    | made info => exact h.made hst hI hv.holds (writes_hold hv.admitted)
  · cases v with
    | held d => exact hv.holds
    | made info => exact h.stored (by simp [Store.hold, HasClass])

theorem assign (hs : Stands ctx st s) (hI : I st) (label : Label) {v : Value}
    (hv : Known V st v) : I (st.assign s label v) := by
  obtain ⟨hheld, hknown⟩ := h.hold hs.sound hI hv
  have hhold : Leads st (st.hold v).2 := writes_hold hv.admitted
  have hbind : Leads (st.hold v).2 (st.assign s label v) :=
    (hs.after hhold).free.writes_bindVar trivial hknown.admitted
  exact h.var (hs.after hhold) hheld hknown.holds hbind

omit h in
theorem leads_assign (hs : Stands ctx st s) (label : Label) {v : Value} (hv : Known V st v) :
    Leads st (st.assign s label v) :=
  hs.free.writes_assign trivial hv.admitted

omit h in
/-- Doing things in turn upholds what each of them upholds. -/
theorem eachInTurn {α : Type} {step : α → Store → Outcome} (items : List α)
    (hstep : ∀ a ∈ items, ∀ {st}, Stands ctx st s → I st →
      Leads st (step a st).store ∧ I (step a st).store) :
    ∀ {st : Store}, Stands ctx st s → I st → I (eachInTurn step items st).store := by
  induction items with
  | nil => exact fun _ hI => hI
  | cons a rest ih =>
    intro st hs hI
    obtain ⟨hleads, hfirst⟩ := hstep a (List.mem_cons_self ..) hs hI
    unfold ScriptScope.eachInTurn Outcome.andThen
    split
    · exact ih (fun b hb => hstep b (List.mem_cons_of_mem _ hb)) (hs.after hleads) hfirst
    · exact hfirst

/-! ### Imports -/

theorem importName (hs : Stands ctx st s) (hI : I st) (item : ImportItem) :
    I (Store.importName s item st).store := by
  unfold Store.importName
  split
  · exact h.imported hs hI
  · exact h.imported hs hI
  · exact hI
  · exact hI
  · exact hI

theorem importFrom (hs : Stands ctx st s) (hI : I st) (source : String) (item : ImportItem) :
    I (Store.importFrom s source item st).store := by
  unfold Store.importFrom
  split
  · exact h.imported hs hI
  · exact h.imported hs hI
  · exact hI
  · exact hI
  · exact hI

theorem importAll (hs : Stands ctx st s) (hI : I st) (source : String) :
    I (st.importAll s source) := by
  unfold Store.importAll
  generalize ((st.scope s).context.moduleMembers source).getD [] = names
  induction names generalizing st with
  | nil => exact hI
  | cons name rest ih =>
    have hleads : Leads st (st.bindImport s (some name) (.static (source ++ "." ++ name))) :=
      .single (.imported trivial trivial hs.has)
    exact ih (hs.after hleads) (h.imported hs hI)

theorem importFromStmt (hs : Stands ctx st s) (hI : I st) (source : Option Label)
    (wildcard : Bool) (items : List ImportItem) :
    I (walkStmt s (.importFrom source wildcard items) st).store := by
  match source, wildcard with
  | none, _ => exact hI
  | some none, _ => exact hI
  | some (some text), true => exact h.importAll hs hI _
  | some (some text), false =>
    refine eachInTurn items (fun item _ st hs hI => ⟨?_, h.importFrom hs hI _ item⟩) hs hI
    exact hs.free.writes_importFrom _ item fun _ _ => trivial

/-! ### Assignments -/

omit h in
theorem registerPath (owner : Value) (path : List Label) (hpath : Registers I path) (hI : I st) :
    I (Store.registerPath owner path st) := by
  fun_induction Store.registerPath owner path st with
  | case1 => exact hI
  | case2 rest st id member st₁ d hd ih =>
    exact ih (hpath.mono fun _ => List.mem_cons_of_mem _) (hpath _ _ _ (List.mem_cons_self ..) hI)
  | case3 rest st id member st₁ hd => exact hpath _ _ _ (List.mem_cons_self ..) hI
  | case4 rest st info member d hd ih => exact ih (hpath.mono fun _ => List.mem_cons_of_mem _) hI
  | case5 => exact hI
  | case6 => exact hI

/-- The values for a group are known before the first of them is bound. -/
theorem known_inferGroup (hs : Stands ctx st s) (hI : I st) {items : List Pattern}
    {values : List Expr} {inferred : List Value}
    (hi : st.inferGroup s items values = some inferred) : ∀ v ∈ inferred, Known V st v := by
  intro v hv
  obtain ⟨⟨item, value⟩, -, hx⟩ := exists_of_mem_mapM hi hv
  dsimp only at hx
  split at hx
  · exact h.known_inferred hs hI hx
  · rw [← Option.some.inj hx]
    exact ⟨admits_unknown, h.unknown⟩

mutual

theorem destructure (target : Pattern) (value : Expr) {st : Store} (hs : Stands ctx st s)
    (hI : I st) : I (Store.destructure s target value st).store := by
  cases target with
  | group items =>
    cases value with
    | sequence values =>
      rw [Store.destructure]
      split
      · exact hI
      · cases hi : st.inferGroup s items values with
        | none => exact hI
        | some inferred =>
          refine bindGroup items (values.zip inferred) hs hI fun v hv => ?_
          exact h.known_inferGroup hs hI hi v.2 (List.of_mem_zip hv).2
    | _ => exact hI
  | _ => exact hI

theorem bindGroup (items : List Pattern) (values : List (Expr × Value)) {st : Store}
    (hs : Stands ctx st s) (hI : I st) (hvalues : ∀ v ∈ values, Known V st v.2) :
    I (Store.bindGroup s items values st).store := by
  match items, values with
  | [], _ =>
    rw [Store.bindGroup]
    · exact hI
    · simp
    · simp
  | _ :: _, [] =>
    rw [Store.bindGroup]
    · exact hI
    · simp
    · simp
  | item :: rest, (value, v) :: others =>
    rw [List.forall_mem_cons] at hvalues
    by_cases hitem : ∃ label, item = .name label
    · obtain ⟨label, rfl⟩ := hitem
      rw [Store.bindGroup]
      have hleads := leads_assign hs label hvalues.1
      refine bindGroup rest others (hs.after hleads) (h.assign hs hI label hvalues.1) ?_
      exact fun w hw => h.known_after hs.sound (hvalues.2 w hw) hleads
    · rw [bindGroup_cons fun label e => hitem ⟨label, e⟩]
      have hfirst := destructure item value hs hI
      have hleads : Leads st (Store.destructure s item value st).store :=
        Keeping.writes_destructure item value hs.free fun _ _ => trivial
      unfold Outcome.andThen
      split
      · refine bindGroup rest others (hs.after hleads) hfirst ?_
        exact fun w hw => h.known_after hs.sound (hvalues.2 w hw) hleads
      · exact hfirst

end

theorem bindTargets (value : Expr) (known : Option Descriptor) (targets : List Pattern)
    (hs : Stands ctx st s) (hI : I st) (hknown : ∀ d, known = some d → Known V st (.held d))
    (htargets : Registers I (targets.flatMap Pattern.path)) :
    I (Store.bindTargets s value known targets st).store := by
  induction targets generalizing st known with
  | nil => exact hI
  | cons target rest ih =>
    rw [List.flatMap_cons] at htargets
    have hpath := htargets.mono fun _ => List.mem_append_left _
    have hrest := htargets.mono fun _ => List.mem_append_right _
    cases target with
    | name label =>
      cases known with
      | some d =>
        rw [Store.bindTargets]
        have hd := hknown d rfl
        have hleads : Leads st (st.bindVar s label d) := hs.free.writes_bindVar trivial hd.admitted
        refine ih (some d) (hs.after hleads) (h.var hs hI hd.holds hleads) ?_ hrest
        exact fun d' e => h.known_after hs.sound (hknown d' e) hleads
      -- the value that is inferred for the first name is shared by those after it
      | none =>
        unfold Store.bindTargets
        dsimp only
        cases hi : st.infer s value with
        | none => exact hI
        | some v =>
          have hv := h.known_inferred hs hI hi
          have hhold : Leads st (st.hold v).2 := writes_hold hv.admitted
          obtain ⟨-, hd⟩ := h.hold hs.sound hI hv
          have hbind : Leads (st.hold v).2 (st.assign s label v) :=
            (hs.after hhold).free.writes_bindVar trivial hd.admitted
          refine ih (some (st.hold v).1) ((hs.after hhold).after hbind)
            (h.assign hs hI label hv) ?_ hrest
          intro d e
          rw [← Option.some.inj e]
          exact h.known_after (hs.after hhold).sound hd hbind
    | group items =>
      rw [Store.bindTargets]
      have hfirst := h.destructure (.group items) value hs hI
      have hleads : Leads st (Store.destructure s (.group items) value st).store :=
        Keeping.writes_destructure (.group items) value hs.free fun _ _ => trivial
      unfold Outcome.andThen
      split
      · refine ih known (hs.after hleads) hfirst ?_ hrest
        exact fun d e => h.known_after hs.sound (hknown d e) hleads
      · exact hfirst
    | member root path =>
      rw [Store.bindTargets]
      have hleads : Leads st (Store.registerPath (st.find s root) path st) :=
        writes_registerPath _ _ _
      refine ih known (hs.after hleads) (registerPath _ _ hpath hI) ?_ hrest
      exact fun d e => h.known_after hs.sound (hknown d e) hleads
    | splat items => exact ih known hs hI hknown hrest
    | other => exact ih known hs hI hknown hrest
    | fault => exact hI

theorem walkAssignment (hs : Stands ctx st s) (hI : I st) (item : Assignment)
    (hitem : Registers I item.registered) : I (Store.walkAssignment s item st).store := by
  cases item with
  | fault => exact hI
  | mk targets value =>
    cases value with
    | none => exact hI
    | some value => exact h.bindTargets value none targets hs hI (by simp) hitem

/-! ### Definitions -/

theorem bindParams (params : List Label) (hs : Stands ctx st s) (hI : I st)
    (hclass : (st.scope s).className = none) (hparent : (st.scope s).parent ≠ none) :
    I (Store.bindParams s params st) := by
  unfold Store.bindParams
  induction params generalizing st with
  | nil => exact hI
  | cons param rest ih =>
    have hadmits : st.Admits .free (.made (.placeholder s)) := by
      refine ⟨?_, ClassInfo.named_placeholder s⟩
      rintro t ⟨⟩
      exact hs.has
    have hknown : Known V st (.made (.placeholder s)) :=
      ⟨hadmits, h.parameter hs.has hclass hparent⟩
    have hleads := leads_assign hs param hknown
    refine ih (hs.after hleads) (h.assign hs hI param hknown) ?_ ?_
    · rwa [hleads.change.className s hs.has]
    · rwa [hleads.change.parent s hs.has]

theorem targets (targets : List Label) (hs : Stands ctx st s) (hI : I st) :
    I (targets.foldl (fun st label => st.bindVar s label .unknown) st) := by
  induction targets generalizing st with
  | nil => exact hI
  | cons label rest ih =>
    have hleads : Leads st (st.bindVar s label .unknown) :=
      hs.free.writes_bindVar trivial admits_unknown
    exact ih (hs.after hleads) (h.var hs hI h.unknown hleads)

/-- A function upholds what its body upholds. -/
theorem functionStmt {name : String} {params : List Label} {body : List Stmt}
    (hs : Stands ctx st s) (hP : P ⟨s, .function name (some params) body, st⟩)
    (hbody : I (st.innerWalk s none params body)) :
    I (walkStmt s (.function name (some params) body) st).store := by
  rw [walkStmt_function_eq]
  cases hreturns : (st.innerWalk s none params body).returnType (st.addChild s none).1 body with
  | none => exact hbody
  | some returns =>
    have hinner := hs.hasScope_innerWalk none params body
    have hmid := hs.after_innerWalk none params body
    exact h.var hmid hbody (h.function hP hs hbody hreturns)
      (hmid.free.writes_bindVar trivial ⟨⟨_, rfl, hinner⟩, trivial⟩)

/-- A class upholds what its body upholds. -/
theorem classStmt {name : String} {bases : List Expr} {body : List Stmt}
    (hs : Stands ctx st s) (hP : P ⟨s, .classDef name bases body, st⟩)
    (hbody : I (st.innerWalk s (some name) [] body)) :
    I (walkStmt s (.classDef name bases body) st).store := by
  have hmid := hs.after_innerWalk (some name) [] body
  rw [walkStmt_classDef_eq]
  cases hbases : (st.innerWalk s (some name) [] body).baseNames s bases with
  | none => exact hbody
  | some superclasses =>
    dsimp only
    have hinner := hs.hasScope_innerWalk (some name) [] body
    have hleads : Leads (st.innerWalk s (some name) [] body) _ :=
      writes_unified hinner name trivial superclasses
    rw [closeClass_eq hmid.sound]
    refine h.var (hmid.after hleads) (h.closed hP hs hbody hbases) (h.stored ?_) ?_
    · simp [HasClass]
    · refine (hmid.after hleads).free.writes_bindVar trivial ⟨?_, trivial⟩
      simp [HoldsValue, Holds, HasClass]

end Steps

/-! ### Statements -/

mutual

theorem walkStmt (h : Upholds ctx P I V) (stmt : Stmt) {s : ScopeId} {st : Store}
    (hs : Stands ctx st s) (hI : I st) (hP : ∀ v ∈ visits s stmt st, P v) :
    I (Store.walkStmt s stmt st).store := by
  -- on the statement; the body of a definition is walked in the scope that it opens
  cases stmt with
  | importNames items =>
    rw [Store.walkStmt]
    refine eachInTurn items (fun item _ st hs hI => ⟨?_, h.importName hs hI item⟩) hs hI
    exact hs.free.writes_importName item fun _ _ => trivial
  | importFrom source wildcard items => exact h.importFromStmt hs hI source wildcard items
  | assign items =>
    have hitems := h.registered (hP _ (List.mem_singleton_self _))
    rw [Store.walkStmt]
    refine eachInTurn items (fun item hitem st hs hI => ⟨?_, ?_⟩) hs hI
    · exact hs.free.writes_walkAssignment item fun _ _ => trivial
    · refine h.walkAssignment hs hI item (hitems.mono fun label hlabel => ?_)
      exact List.mem_flatMap.mpr ⟨item, hitem, hlabel⟩
  | function name params body =>
    cases params with
    | none =>
      rw [visits, List.forall_mem_cons] at hP
      rw [Store.walkStmt]
      exact h.opened hP.1 rfl hs hI
    | some params =>
      rw [visits, List.forall_mem_cons] at hP
      have hnew := scope_addChild_new st s none
      have hbound := h.bindParams params (hs.inner none) (h.opened hP.1 rfl hs hI) (by rw [hnew])
        (by simp [hnew])
      refine h.functionStmt hs hP.1 ?_
      exact h.walkBody body ((hs.inner none).after_bindParams params) hbound hP.2
  | classDef name bases body =>
    rw [visits, List.forall_mem_cons] at hP
    refine h.classStmt hs hP.1 ?_
    exact h.walkBody body (hs.inner (some name)) (h.opened hP.1 rfl hs hI) hP.2
  | decorated definition =>
    rw [visits, List.forall_mem_cons] at hP
    rw [Store.walkStmt]
    exact h.walkStmt definition hs hI hP.2
  | control parts =>
    rw [visits, List.forall_mem_cons] at hP
    rw [Store.walkStmt]
    exact h.walkControl parts hs hI hP.2
  | ret value => exact hI
  | other => exact hI
  | fault => exact hI

/-- What every single thing a walk does upholds, the walk upholds. -/
theorem walkBody (h : Upholds ctx P I V) (body : List Stmt) {s : ScopeId} {st : Store}
    (hs : Stands ctx st s) (hI : I st) (hP : ∀ v ∈ visitsIn s body st, P v) :
    I (Store.walkBody s body st) := by
  match body with
  | [] => exact hI
  | stmt :: rest =>
    rw [visitsIn, List.forall_mem_append] at hP
    exact h.walkBody rest (hs.after_walkStmt stmt) (h.walkStmt stmt hs hI hP.1) hP.2

theorem walkControl (h : Upholds ctx P I V) (parts : Control) {s : ScopeId} {st : Store}
    (hs : Stands ctx st s) (hI : I st) (hP : ∀ v ∈ visitsControl s parts st, P v) :
    I (Store.walkControl s parts st).store := by
  match parts with
  | .mk none _ => exact hI
  | .mk (some targets) parts =>
    rw [visitsControl] at hP
    rw [Store.walkControl]
    exact h.walkParts parts (hs.after_targets targets) (h.targets targets hs hI) hP

theorem walkParts (h : Upholds ctx P I V) (parts : List Part) {s : ScopeId} {st : Store}
    (hs : Stands ctx st s) (hI : I st) (hP : ∀ v ∈ visitsParts s parts st, P v) :
    I (Store.walkParts s parts st).store := by
  match parts with
  | [] => exact hI
  | .block body :: rest =>
    rw [visitsParts, List.forall_mem_append] at hP
    rw [Store.walkParts]
    exact h.walkParts rest (hs.after_walkBody body) (h.walkBody body hs hI hP.1) hP.2
  | .clause inner :: rest =>
    rw [visitsParts, List.forall_mem_append] at hP
    have hfirst := h.walkControl inner hs hI hP.1
    rw [Store.walkParts]
    unfold Outcome.andThen
    -- after a clause that stopped there is nothing more
    split
    · rename_i hend
      rw [ite_cond_eq_true _ _ (eq_true hend)] at hP
      exact h.walkParts rest (hs.after_walkControl inner) hfirst hP.2
    · exact hfirst

end

end Upholds

end Store

end ScriptScope
