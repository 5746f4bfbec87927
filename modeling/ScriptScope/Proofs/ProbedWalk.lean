import ScriptScope.Proofs.Probe
import ScriptScope.Proofs.Unification

/-!
# Walking past a probe

Statements that open no scope find nothing of a probe that stands in another scope than theirs, so
walking them and putting the probe in commute (`walkBody_onStore`).  The same holds of the ends of
definitions (`functionEnd_onStore`, `closeClass_onStore`); the end of the body in which the probe
stands is among these.
-/

namespace ScriptScope

/-- The labels of the members that an assignment registers or accesses. -/
def Assignment.accessed : Assignment → List Label
  | .mk targets (some value) => targets.flatMap Pattern.path ++ value.accessed
  | .mk _ none | .fault => []

/-- The labels of the members that a statement registers or accesses itself. -/
def Stmt.accessed : Stmt → List Label
  | .assign items => items.flatMap Assignment.accessed
  | .classDef _ bases _ => Expr.accessedIn bases
  | .ret value => value.accessed
  | .importNames _ | .importFrom _ _ _ | .function _ _ _ | .decorated _ | .control _ | .other
  | .fault => []

namespace Probe

variable {p : Probe} {st : Store} {s : ScopeId}

/-! ### Single writes -/

theorem onTable_bind (table : Bindings) (label : Label) (d : Descriptor) :
    (p.onTable table).bind label (p.onDescriptor d) = p.onTable (table.bind label d) := by
  induction table with
  | nil => rfl
  | cons b rest ih =>
    show Bindings.bind _ _ ((b.1, p.onDescriptor b.2) :: p.onTable rest) = _
    unfold Bindings.bind
    dsimp only
    split
    · rfl
    · rw [ih]
      rfl

theorem modifyScope_onStore {f g : ScopeInfo → ScopeInfo}
    (hfg : ∀ info, g (p.onScope s info) = p.onScope s (f info)) :
    (p.onStore st).modifyScope s g = p.onStore (st.modifyScope s f) := by
  unfold Store.modifyScope onStore
  refine congrArg (Store.mk · _) (List.ext_getElem? fun i => ?_)
  rw [List.getElem?_modify, List.getElem?_mapIdx, List.getElem?_mapIdx, List.getElem?_modify]
  cases st.scopes[i]? with
  | none => simp
  | some info =>
    by_cases hi : s.index = i
    · subst hi
      simp [hfg]
    · simp [hi]

theorem bindVar_onStore (hs : s ≠ p.scope) (label : Label) (d : Descriptor) :
    (p.onStore st).bindVar s label (p.onDescriptor d) = p.onStore (st.bindVar s label d) := by
  refine modifyScope_onStore fun info => ?_
  unfold onScope
  simp only [hs, ↓reduceIte, List.append_nil, onTable_bind]

theorem bindImport_onStore (label : Label) (d : Descriptor) :
    (p.onStore st).bindImport s label (p.onDescriptor d) =
      p.onStore (st.bindImport s label d) := by
  refine modifyScope_onStore fun info => ?_
  unfold onScope
  simp only [onTable_bind]

theorem addClass_onStore (h : p.base ≤ st.classes.length) (info : ClassInfo) :
    (p.onStore st).addClass info =
      (p.onClassId (st.addClass info).1, p.onStore (st.addClass info).2) := by
  unfold Store.addClass onStore onClassId
  dsimp only
  rw [List.take_append_of_le_length h, List.drop_append_of_le_length h,
    ite_cond_eq_false _ _ (eq_false (Nat.not_lt.mpr h))]
  simp
  omega

theorem hold_onStore (h : p.base ≤ st.classes.length) (v : Value) :
    (p.onStore st).hold (p.onValue v) =
      (p.onDescriptor (st.hold v).1, p.onStore (st.hold v).2) := by
  cases v with
  | held d => rfl
  | made info =>
    show (Descriptor.script ((p.onStore st).addClass info).1, ((p.onStore st).addClass info).2) = _
    rw [addClass_onStore h]
    rfl

theorem assign_onStore (h : p.base ≤ st.classes.length) (hs : s ≠ p.scope) (label : Label)
    (v : Value) :
    (p.onStore st).assign s label (p.onValue v) = p.onStore (st.assign s label v) := by
  unfold Store.assign
  rw [hold_onStore h]
  exact bindVar_onStore hs label _

theorem modifyClass_onStore (h : p.base ≤ st.classes.length) (id : ClassId)
    (f : ClassInfo → ClassInfo) :
    (p.onStore st).modifyClass (p.onClassId id) f = p.onStore (st.modifyClass id f) := by
  unfold Store.modifyClass onStore onClassId
  -- a class that is put in is none of those that are changed
  refine congrArg (Store.mk _ ·) (List.ext_getElem? fun i => ?_)
  grind

/-! ### Stores stay clear -/

/-- If no scope is changed, it is for the classes to name superclasses elsewhere. -/
theorem Clear.of_scopes_eq {st' : Store} (h : p.Clear st) (hscopes : st'.scopes = st.scopes)
    (hclasses : st.classes.length ≤ st'.classes.length)
    (hbases : ∀ id, (st'.cls id).bases ≠ [] → st.home? (st'.cls id) ≠ some p.scope) :
    p.Clear st' := by
  have hread : ∀ t, st'.scope t = st.scope t := Store.scope_of_scopes_eq hscopes
  refine ⟨?_, Nat.le_trans h.base_le hclasses, ?_, ?_, ?_, ?_⟩
  · unfold Store.HasScope
    rw [hscopes]
    exact h.has
  · intro t
    rw [hread]
    exact h.parents t
  · intro t b hb
    rw [hread] at hb
    exact h.bound t b hb
  · intro id hid
    have hhome : st'.home? (st'.cls id) = st.home? (st'.cls id) := by
      unfold Store.home?
      simp only [hread]
    rw [hhome]
    exact hbases id hid
  · rw [hread]
    exact h.plain

/-- Binding a variable or an import changes neither classes nor where scopes stand. -/
theorem Clear.of_tables {st' : Store} (h : p.Clear st)
    (hlen : st'.scopes.length = st.scopes.length) (hclasses : st'.classes = st.classes)
    (hparent : ∀ t, (st'.scope t).parent = (st.scope t).parent)
    (hclass : ∀ t, (st'.scope t).className = (st.scope t).className)
    (hbound : st'.Every fun b => p.Apart b.2) : p.Clear st' := by
  have hcls : ∀ id, st'.cls id = st.cls id := by
    intro id
    unfold Store.cls
    rw [hclasses]
  refine ⟨?_, by rw [hclasses]; exact h.base_le, ?_, hbound, ?_, ?_⟩
  · unfold Store.HasScope
    rw [hlen]
    exact h.has
  · intro t
    rw [hparent]
    exact h.parents t
  · intro id hid
    rw [hcls] at hid ⊢
    have hhome : st'.home? (st.cls id) = st.home? (st.cls id) := by
      unfold Store.home?
      simp only [hparent]
    rw [hhome]
    exact h.bases id hid
  · rw [hclass]
    exact h.plain

theorem Clear.bindVar (h : p.Clear st) (hs : st.HasScope s) (label : Label) {d : Descriptor}
    (hd : p.Apart d) : p.Clear (st.bindVar s label d) :=
  h.of_tables (by simp) (by simp) (by simp) (by simp) (h.bound.bindVar hs hd)

theorem Clear.bindImport (h : p.Clear st) (hs : st.HasScope s) (label : Label) (name : String) :
    p.Clear (st.bindImport s label (.static name)) :=
  h.of_tables (by simp) (by simp) (by simp) (by simp) (h.bound.bindImport hs trivial)

/-- A class may change, as long as it does not come to name superclasses in the scope of the
probe. -/
theorem Clear.modifyClass (h : p.Clear st) (id : ClassId) {f : ClassInfo → ClassInfo}
    (hf : (f (st.cls id)).bases ≠ [] → st.home? (f (st.cls id)) ≠ some p.scope) :
    p.Clear (st.modifyClass id f) := by
  refine h.of_scopes_eq rfl (by simp) fun other hother => ?_
  by_cases heq : other = id
  · subst heq
    by_cases hhas : st.HasClass other
    · rw [Store.cls_modifyClass_self st f hhas] at hother ⊢
      exact hf hother
    · have hstill : ¬ (st.modifyClass other f).HasClass other := by
        unfold Store.HasClass
        rwa [Store.length_classes_modifyClass]
      rw [Store.cls_of_not_hasClass hstill] at hother
      exact absurd rfl hother
  · rw [Store.cls_modifyClass_of_ne st f heq] at hother ⊢
    exact h.bases other hother

theorem Clear.putAll (h : p.Clear st) (id : ClassId) (members : List Label) :
    p.Clear (st.modifyClass id (·.putAll members)) := by
  refine h.modifyClass id ?_
  rw [ClassInfo.putAll_eq]
  exact h.bases id

theorem Clear.addClass (h : p.Clear st) {info : ClassInfo}
    (hinfo : info.bases ≠ [] → st.home? info ≠ some p.scope) : p.Clear (st.addClass info).2 := by
  refine h.of_scopes_eq rfl (by simp) fun id hid => ?_
  by_cases hnew : id = (st.addClass info).1
  · rw [hnew, Store.cls_addClass_new] at hid ⊢
    exact hinfo hid
  · rw [Store.cls_addClass_of_ne st hnew] at hid ⊢
    exact h.bases id hid

/-- Statements that open no scope leave a store clear of a probe. -/
theorem Clear.upholds (ctx : Context) (p : Probe) :
    Store.Upholds ctx (fun v => v.stmt.opens = none) p.Clear (fun _ v => p.ApartValue v) where
  inferred _ h hv := (h.sources _).forall_infer hv
  unknown := trivial
  stored _ := trivial
  lasts _ hv _ := hv
  var hs h hd _ := h.bindVar hs.has _ hd
  imported hs h := h.bindImport hs.has _ _
  registered _ _ _ _ _ h := h.putAll _ [some _]
  opened hnone hopens := by
    rw [hnone] at hopens
    simp at hopens
  made _ h hinfo _ := h.addClass (absurd hinfo)
  parameter _ _ _ := rfl
  function hnone := by simp [Stmt.opens] at hnone
  closed hnone := by simp [Stmt.opens] at hnone

/-! ### Imports and assignments -/

/-- Puts the probe into the store that a piece of work leaves. -/
def onOutcome (p : Probe) (o : Outcome) : Outcome := ⟨p.onStore o.store, o.completed⟩

theorem andThen_onOutcome {o : Outcome} {next next' : Store → Outcome}
    (h : next' (p.onStore o.store) = p.onOutcome (next o.store)) :
    (p.onOutcome o).andThen next' = p.onOutcome (o.andThen next) := by
  unfold Outcome.andThen
  show (if o.completed then _ else _) = _
  split
  · exact h
  · rfl

/-- A walk stands beside a probe: in another scope, and in a store that is clear of it. -/
structure Beside (p : Probe) (ctx : Context) (st : Store) (s : ScopeId) : Prop where
  stands : Store.Stands ctx st s
  clear : p.Clear st
  ne : s ≠ p.scope

/-- What is bound beside a probe. -/
abbrev Known (p : Probe) : Store → Value → Prop :=
  Store.Upholds.Known (fun _ v => p.ApartValue v)

variable {ctx : Context}

theorem Beside.after (h : p.Beside ctx st s) {st' : Store} (hleads : Store.Leads st st')
    (hclear : p.Clear st') : p.Beside ctx st' s :=
  ⟨h.stands.after hleads, hclear, h.ne⟩

theorem eachInTurn_onStore {α : Type} {step : α → Store → Outcome} (items : List α)
    (hstep : ∀ a ∈ items, ∀ {st}, p.Beside ctx st s →
      step a (p.onStore st) = p.onOutcome (step a st) ∧ p.Beside ctx (step a st).store s) :
    ∀ {st : Store}, p.Beside ctx st s →
      eachInTurn step items (p.onStore st) = p.onOutcome (eachInTurn step items st) := by
  induction items with
  | nil => exact fun _ => rfl
  | cons a rest ih =>
    intro st h
    obtain ⟨hfirst, hafter⟩ := hstep a (List.mem_cons_self ..) h
    rw [eachInTurn, eachInTurn, hfirst]
    refine andThen_onOutcome ?_
    exact ih (fun b hb => hstep b (List.mem_cons_of_mem _ hb)) hafter

theorem importName_onStore (item : ImportItem) (st : Store) :
    Store.importName s item (p.onStore st) = p.onOutcome (Store.importName s item st) := by
  have hbind : ∀ label name, (p.onStore st).bindImport s label (.static name) =
      p.onStore (st.bindImport s label (.static name)) :=
    fun label name => bindImport_onStore label (.static name)
  unfold Store.importName
  split
  · exact congrArg Outcome.done (hbind _ _)
  · exact congrArg Outcome.done (hbind _ _)
  · rfl
  · rfl
  · rfl

theorem importFrom_onStore (source : String) (item : ImportItem) (st : Store) :
    Store.importFrom s source item (p.onStore st) =
      p.onOutcome (Store.importFrom s source item st) := by
  have hbind : ∀ label name, (p.onStore st).bindImport s label (.static name) =
      p.onStore (st.bindImport s label (.static name)) :=
    fun label name => bindImport_onStore label (.static name)
  unfold Store.importFrom
  split
  · exact congrArg Outcome.done (hbind _ _)
  · exact congrArg Outcome.done (hbind _ _)
  · rfl
  · rfl
  · rfl

theorem importAll_onStore (h : p.Clear st) (source : String) :
    (p.onStore st).importAll s source = p.onStore (st.importAll s source) := by
  unfold Store.importAll
  rw [scope_onStore h.has]
  show (((st.scope s).context.moduleMembers source).getD []).foldl _ _ = _
  generalize ((st.scope s).context.moduleMembers source).getD [] = names
  clear h
  induction names generalizing st with
  | nil => rfl
  | cons name rest ih =>
    rw [List.foldl_cons, List.foldl_cons, ← ih]
    exact congrArg (List.foldl _ · rest)
      (bindImport_onStore (some name) (.static (source ++ "." ++ name)))

theorem registerPath_onStore (owner : Value) (path : List Label) (h : p.Clear st)
    (hpath : p.label ∉ path) :
    Store.registerPath (p.onValue owner) path (p.onStore st) =
      p.onStore (Store.registerPath owner path st) := by
  fun_induction Store.registerPath owner path st with
  | case1 owner st => rfl
  | case2 rest st id member st₁ d hd ih =>
    rw [List.mem_cons, not_or] at hpath
    have hst₁ := modifyClass_onStore h.base_le id (·.put (some member))
    have hclear : p.Clear st₁ := h.putAll id [some member]
    have hbody := bodyBinding?_cls_onStore hclear (Ne.symm hpath.1) id
    rw [hd] at hbody
    show Store.registerPath (.held (.script (p.onClassId id))) (some member :: rest) _ = _
    rw [Store.registerPath, hst₁, hbody]
    exact ih hclear hpath.2
  | case3 rest st id member st₁ hd =>
    rw [List.mem_cons, not_or] at hpath
    have hst₁ := modifyClass_onStore h.base_le id (·.put (some member))
    have hclear : p.Clear st₁ := h.putAll id [some member]
    have hbody := bodyBinding?_cls_onStore hclear (Ne.symm hpath.1) id
    rw [hd] at hbody
    show Store.registerPath (.held (.script (p.onClassId id))) (some member :: rest) _ = _
    rw [Store.registerPath, hst₁, hbody]
    rfl
  | case4 rest st info member d hd ih =>
    rw [List.mem_cons, not_or] at hpath
    have hbody := bodyBinding?_onStore h (Ne.symm hpath.1) info
    rw [hd] at hbody
    show Store.registerPath (.made info) (some member :: rest) _ = _
    rw [Store.registerPath, hbody]
    exact ih h hpath.2
  | case5 rest st info member hd =>
    rw [List.mem_cons, not_or] at hpath
    have hbody := bodyBinding?_onStore h (Ne.symm hpath.1) info
    rw [hd] at hbody
    show Store.registerPath (.made info) (some member :: rest) _ = _
    rw [Store.registerPath, hbody]
    rfl
  | case6 owner label rest st hscript hmade =>
    rw [Store.registerPath]
    · intro id member howner hlabel
      cases owner with
      | made info => simp [onValue] at howner
      | held d =>
        cases d with
        | script id => exact hscript id member rfl hlabel
        | _ => simp [onValue, onDescriptor] at howner
    · intro info member howner hlabel
      cases owner with
      | made info => exact hmade info member rfl hlabel
      | held d => simp [onValue] at howner

theorem not_mem_accessed_of_mem {label : Label} {items : List Expr}
    (h : label ∉ Expr.accessedIn items) : ∀ e ∈ items, label ∉ e.accessed := by
  induction items with
  | nil => simp
  | cons e rest ih =>
    rw [Expr.accessedIn, List.mem_append, not_or] at h
    exact List.forall_mem_cons.mpr ⟨h.1, ih h.2⟩

theorem inferGroup_onStore (h : p.Beside ctx st s) (items : List Pattern) {values : List Expr}
    (hvalues : ∀ e ∈ values, p.label ∉ e.accessed) :
    (p.onStore st).inferGroup s items values =
      (st.inferGroup s items values).map (List.map p.onValue) := by
  refine mapM_eq_map_mapM fun pair hpair => ?_
  obtain ⟨item, value⟩ := pair
  have hvalue := hvalues value (List.of_mem_zip hpair).2
  dsimp only
  split
  · exact infer_onStore h.clear h.ne hvalue
  · rfl

/-- The probe changes the values for a group, and not their expressions. -/
def onPairs (p : Probe) (values : List (Expr × Value)) : List (Expr × Value) :=
  values.map (Prod.map id p.onValue)

mutual

theorem destructure_onStore (target : Pattern) (value : Expr) {st : Store}
    (h : p.Beside ctx st s) (hvalue : p.label ∉ value.accessed) :
    Store.destructure s target value (p.onStore st) =
      p.onOutcome (Store.destructure s target value st) := by
  cases target with
  | group items =>
    cases value with
    | sequence values =>
      rw [Expr.accessed] at hvalue
      have hvalues := not_mem_accessed_of_mem hvalue
      rw [Store.destructure, Store.destructure]
      split
      · rfl
      · rw [inferGroup_onStore h items hvalues]
        cases hi : st.inferGroup s items values with
        | none => rfl
        | some inferred =>
          dsimp only [Option.map_some]
          rw [List.zip_map_right]
          refine bindGroup_onStore items (values.zip inferred) h ?_ ?_
          · exact fun v hv => hvalues v.1 (List.of_mem_zip hv).1
          · exact fun v hv => (Clear.upholds ctx p).known_inferGroup h.stands h.clear hi v.2
              (List.of_mem_zip hv).2
    | _ => rfl
  | _ => rfl

theorem bindGroup_onStore (items : List Pattern) (values : List (Expr × Value)) {st : Store}
    (h : p.Beside ctx st s) (haccess : ∀ v ∈ values, p.label ∉ v.1.accessed)
    (hvalues : ∀ v ∈ values, p.Known st v.2) :
    Store.bindGroup s items (p.onPairs values) (p.onStore st) =
      p.onOutcome (Store.bindGroup s items values st) := by
  match items, values with
  | [], _ =>
    rw [Store.bindGroup, Store.bindGroup]
    · rfl
    all_goals simp
  | _ :: _, [] =>
    rw [onPairs, List.map_nil, Store.bindGroup, Store.bindGroup]
    · rfl
    all_goals simp
  | item :: rest, (value, v) :: others =>
    rw [List.forall_mem_cons] at hvalues haccess
    show Store.bindGroup s (item :: rest) ((value, p.onValue v) :: p.onPairs others) _ = _
    by_cases hitem : ∃ label, item = .name label
    · obtain ⟨label, rfl⟩ := hitem
      rw [Store.bindGroup, Store.bindGroup, assign_onStore h.clear.base_le h.ne]
      have hleads := Store.Upholds.leads_assign h.stands label hvalues.1
      have hafter := h.after hleads
        ((Clear.upholds ctx p).assign h.stands h.clear label hvalues.1)
      refine bindGroup_onStore rest others hafter haccess.2 ?_
      exact fun w hw => (Clear.upholds ctx p).known_after h.stands.sound (hvalues.2 w hw) hleads
    · have hname : ∀ label, item ≠ .name label := fun label e => hitem ⟨label, e⟩
      rw [Store.bindGroup_cons hname, Store.bindGroup_cons hname,
        destructure_onStore item value h haccess.1]
      have hleads : Store.Leads st (Store.destructure s item value st).store :=
        Store.Keeping.writes_destructure item value h.stands.free fun _ _ => trivial
      have hafter := h.after hleads
        ((Clear.upholds ctx p).destructure item value h.stands h.clear)
      refine andThen_onOutcome (bindGroup_onStore rest others hafter haccess.2 ?_)
      exact fun w hw => (Clear.upholds ctx p).known_after h.stands.sound (hvalues.2 w hw) hleads

end

theorem bindTargets_onStore {value : Expr} (hvalue : p.label ∉ value.accessed)
    (known : Option Descriptor) (targets : List Pattern) (h : p.Beside ctx st s)
    (htargets : ∀ target ∈ targets, p.label ∉ target.path)
    (hknown : ∀ d, known = some d → p.Known st (.held d)) :
    Store.bindTargets s value (known.map p.onDescriptor) targets (p.onStore st) =
      p.onOutcome (Store.bindTargets s value known targets st) := by
  have hup := Clear.upholds ctx p
  induction targets generalizing st known with
  | nil =>
    rw [Store.bindTargets, Store.bindTargets]
    rfl
  | cons target rest ih =>
    rw [List.forall_mem_cons] at htargets
    cases target with
    | name label =>
      cases known with
      | some d =>
        rw [Option.map_some, Store.bindTargets, Store.bindTargets, bindVar_onStore h.ne]
        have hd := hknown d rfl
        have hleads : Store.Leads st (st.bindVar s label d) :=
          h.stands.free.writes_bindVar trivial hd.admitted
        refine ih (some d) (h.after hleads ?_) htargets.2 ?_
        · exact hup.var h.stands h.clear hd.holds hleads
        · exact fun d' e => hup.known_after h.stands.sound (hknown d' e) hleads
      | none =>
        rw [Option.map_none]
        unfold Store.bindTargets
        dsimp only
        rw [infer_onStore h.clear h.ne hvalue]
        cases hi : st.infer s value with
        | none => rfl
        | some v =>
          have hv := hup.known_inferred h.stands h.clear hi
          have hhold : Store.Leads st (st.hold v).2 := Store.writes_hold hv.admitted
          obtain ⟨-, hd⟩ := hup.hold h.stands.sound h.clear hv
          have hbind : Store.Leads (st.hold v).2 (st.assign s label v) :=
            (h.stands.after hhold).free.writes_bindVar trivial hd.admitted
          dsimp only [Option.map_some]
          rw [hold_onStore h.clear.base_le]
          dsimp only
          rw [bindVar_onStore h.ne]
          refine ih (some (st.hold v).1) (h.after (hhold.trans hbind) ?_) htargets.2 ?_
          · exact hup.assign h.stands h.clear label hv
          · intro d e
            rw [← Option.some.inj e]
            exact hup.known_after (h.stands.after hhold).sound hd hbind
    | group items =>
      rw [Store.bindTargets, Store.bindTargets, destructure_onStore (.group items) value h hvalue]
      have hleads : Store.Leads st (Store.destructure s (.group items) value st).store :=
        Store.Keeping.writes_destructure (.group items) value h.stands.free fun _ _ => trivial
      refine andThen_onOutcome (ih known (h.after hleads ?_) htargets.2 ?_)
      · exact hup.destructure (.group items) value h.stands h.clear
      · exact fun d e => hup.known_after h.stands.sound (hknown d e) hleads
    | member root path =>
      rw [Store.bindTargets, Store.bindTargets, find_onStore h.clear (.inl h.ne),
        registerPath_onStore _ path h.clear htargets.1]
      have hleads : Store.Leads st (Store.registerPath (st.find s root) path st) :=
        Store.writes_registerPath _ _ _
      refine ih known (h.after hleads ?_) htargets.2 ?_
      · exact Store.Upholds.registerPath _ _ (fun _ _ _ _ h => h.putAll _ [some _]) h.clear
      · exact fun d e => hup.known_after h.stands.sound (hknown d e) hleads
    | splat items =>
      rw [Store.bindTargets, Store.bindTargets]
      exact ih known h htargets.2 hknown
    | other =>
      rw [Store.bindTargets, Store.bindTargets]
      exact ih known h htargets.2 hknown
    | fault =>
      rw [Store.bindTargets, Store.bindTargets]
      rfl

theorem walkAssignment_onStore (h : p.Beside ctx st s) {item : Assignment}
    (hitem : p.label ∉ item.accessed) :
    Store.walkAssignment s item (p.onStore st) = p.onOutcome (Store.walkAssignment s item st) := by
  match item with
  | .fault => rfl
  | .mk _ none => rfl
  | .mk targets (some value) =>
    rw [Assignment.accessed, List.mem_append, List.mem_flatMap, not_or] at hitem
    refine bindTargets_onStore hitem.2 none targets h ?_ (by simp)
    exact fun target ht hmem => hitem.1 ⟨target, ht, hmem⟩

/-! ### Statements that open no scope -/

/-- Statements that open no scope and do not use the label of the probe for a member. -/
def Idle (p : Probe) (stmts : List Stmt) : Prop :=
  ∀ x ∈ stmts, x.opens = none ∧ p.label ∉ x.accessed

theorem Beside.after_walkStmt (h : p.Beside ctx st s) {stmt : Stmt} (hidle : p.Idle stmt.order) :
    p.Beside ctx (Store.walkStmt s stmt st).store s := by
  refine h.after (h.stands.writes_walkStmt fun _ _ _ _ => trivial) ?_
  refine (Clear.upholds ctx p).walkStmt stmt h.stands h.clear fun v hv => ?_
  exact (hidle v.stmt (Store.stmt_mem_order stmt v hv)).1

theorem Beside.after_walkBody (h : p.Beside ctx st s) {body : List Stmt}
    (hidle : p.Idle (Stmt.orderIn body)) : p.Beside ctx (Store.walkBody s body st) s := by
  refine h.after (h.stands.writes_walkBody fun _ _ _ _ => trivial) ?_
  refine (Clear.upholds ctx p).walkBody body h.stands h.clear fun v hv => ?_
  exact (hidle v.stmt (Store.stmt_mem_orderIn body v hv)).1

theorem Beside.after_walkControl (h : p.Beside ctx st s) {parts : Control}
    (hidle : p.Idle parts.order) : p.Beside ctx (Store.walkControl s parts st).store s := by
  refine h.after (h.stands.writes_walkControl (fun _ _ => trivial) fun _ _ _ _ => trivial) ?_
  refine (Clear.upholds ctx p).walkControl parts h.stands h.clear fun v hv => ?_
  exact (hidle v.stmt (Store.stmt_mem_controlOrder parts v hv)).1

theorem targets_onStore (hs : s ≠ p.scope) (targets : List Label) (st : Store) :
    targets.foldl (fun st label => st.bindVar s label .unknown) (p.onStore st) =
      p.onStore (targets.foldl (fun st label => st.bindVar s label .unknown) st) := by
  induction targets generalizing st with
  | nil => rfl
  | cons label rest ih =>
    rw [List.foldl_cons, List.foldl_cons, ← ih]
    exact congrArg (List.foldl _ · rest) (bindVar_onStore hs label .unknown)

theorem importFromStmt_onStore (h : p.Beside ctx st s) (source : Option Label) (wildcard : Bool)
    (items : List ImportItem) :
    Store.walkStmt s (.importFrom source wildcard items) (p.onStore st) =
      p.onOutcome (Store.walkStmt s (.importFrom source wildcard items) st) := by
  match source, wildcard with
  | none, _ => rfl
  | some none, _ => rfl
  | some (some text), true => exact congrArg Outcome.done (importAll_onStore h.clear _)
  | some (some text), false =>
    refine eachInTurn_onStore items (fun item _ st h => ⟨importFrom_onStore _ item st, ?_⟩) h
    refine h.after (h.stands.free.writes_importFrom _ item fun _ _ => trivial) ?_
    exact (Clear.upholds ctx p).importFrom h.stands h.clear _ item

mutual

theorem walkStmt_onStore (stmt : Stmt) {st : Store} (h : p.Beside ctx st s)
    (hidle : p.Idle stmt.order) :
    Store.walkStmt s stmt (p.onStore st) = p.onOutcome (Store.walkStmt s stmt st) := by
  cases stmt with
  | importNames items =>
    rw [Store.walkStmt, Store.walkStmt]
    refine eachInTurn_onStore items (fun item _ st h => ⟨importName_onStore item st, ?_⟩) h
    refine h.after (h.stands.free.writes_importName item fun _ _ => trivial) ?_
    exact (Clear.upholds ctx p).importName h.stands h.clear item
  | importFrom source wildcard items => exact importFromStmt_onStore h source wildcard items
  | assign items =>
    have haccess : ∀ item ∈ items, p.label ∉ item.accessed := by
      intro item hitem hmem
      refine (hidle (.assign items) (by simp [Stmt.order])).2 ?_
      exact List.mem_flatMap.mpr ⟨item, hitem, hmem⟩
    rw [Store.walkStmt, Store.walkStmt]
    refine eachInTurn_onStore items (fun item hitem st h => ?_) h
    refine ⟨walkAssignment_onStore h (haccess item hitem), ?_⟩
    refine h.after (h.stands.free.writes_walkAssignment item fun _ _ => trivial) ?_
    refine (Clear.upholds ctx p).walkAssignment h.stands h.clear item ?_
    exact fun _ _ _ _ h => h.putAll _ [some _]
  | function name params body =>
    have hopens := (hidle (.function name params body) (by simp [Stmt.order])).1
    simp [Stmt.opens] at hopens
  | classDef name bases body =>
    have hopens := (hidle (.classDef name bases body) (by simp [Stmt.order])).1
    simp [Stmt.opens] at hopens
  | decorated definition =>
    rw [Stmt.order, Idle, List.forall_mem_cons] at hidle
    rw [Store.walkStmt, Store.walkStmt]
    exact walkStmt_onStore definition h hidle.2
  | control parts =>
    rw [Stmt.order, Idle, List.forall_mem_cons] at hidle
    rw [Store.walkStmt, Store.walkStmt]
    exact walkControl_onStore parts h hidle.2
  | ret value => rfl
  | other => rfl
  | fault => rfl

/-- Statements beside a probe do with it what they do without. -/
theorem walkBody_onStore (body : List Stmt) {st : Store} (h : p.Beside ctx st s)
    (hidle : p.Idle (Stmt.orderIn body)) :
    Store.walkBody s body (p.onStore st) = p.onStore (Store.walkBody s body st) := by
  match body with
  | [] => rfl
  | stmt :: rest =>
    rw [Stmt.orderIn, Idle, List.forall_mem_append] at hidle
    rw [Store.walkBody, Store.walkBody, walkStmt_onStore stmt h hidle.1]
    exact walkBody_onStore rest (h.after_walkStmt hidle.1) hidle.2

theorem walkControl_onStore (parts : Control) {st : Store} (h : p.Beside ctx st s)
    (hidle : p.Idle parts.order) :
    Store.walkControl s parts (p.onStore st) = p.onOutcome (Store.walkControl s parts st) := by
  match parts with
  | .mk none _ => rfl
  | .mk (some targets) parts =>
    rw [Control.order] at hidle
    rw [Store.walkControl, Store.walkControl, targets_onStore h.ne]
    refine walkParts_onStore parts (h.after ?_ ?_) hidle
    · exact h.stands.free.writes_targets targets fun _ _ => trivial
    · exact (Clear.upholds ctx p).targets targets h.stands h.clear

theorem walkParts_onStore (parts : List Part) {st : Store} (h : p.Beside ctx st s)
    (hidle : p.Idle (Part.orderIn parts)) :
    Store.walkParts s parts (p.onStore st) = p.onOutcome (Store.walkParts s parts st) := by
  match parts with
  | [] => rfl
  | .block body :: rest =>
    rw [Part.orderIn, Idle, List.forall_mem_append] at hidle
    rw [Store.walkParts, Store.walkParts, walkBody_onStore body h hidle.1]
    exact walkParts_onStore rest (h.after_walkBody hidle.1) hidle.2
  | .clause inner :: rest =>
    rw [Part.orderIn, Idle, List.forall_mem_append] at hidle
    rw [Store.walkParts, Store.walkParts, walkControl_onStore inner h hidle.1]
    exact andThen_onOutcome (walkParts_onStore rest (h.after_walkControl hidle.1) hidle.2)

end

/-! ### Ends of definitions -/

section Ends

variable (h : p.Clear st)

include h

theorem returnType_onStore (hs : s ≠ p.scope) {body : List Stmt}
    (hbody : ∀ x ∈ body, p.label ∉ x.accessed) :
    (p.onStore st).returnType s body = st.returnType s body := by
  unfold Store.returnType
  split
  · rename_i value hlast
    rw [infer_onStore h hs (hbody _ (List.mem_of_getLast? hlast)), Option.map_map]
    refine congrArg (Option.map · _) ?_
    funext v
    exact congrArg (Option.filter _) (valueType_onStore h v)
  · rfl

theorem baseNames_onStore (hs : s ≠ p.scope) {bases : List Expr}
    (hbases : p.label ∉ Expr.accessedIn bases) :
    (p.onStore st).baseNames s bases = st.baseNames s bases := by
  have hinfer : bases.mapM ((p.onStore st).infer s) =
      (bases.mapM (st.infer s)).map (List.map p.onValue) :=
    mapM_eq_map_mapM fun e he => infer_onStore h hs (not_mem_accessed_of_mem hbases e he)
  unfold Store.baseNames
  rw [hinfer, Option.map_map]
  refine congrArg (Option.map · _) ?_
  funext values
  show (values.map p.onValue).filterMap _ = _
  rw [List.filterMap_map]
  refine congrArg (List.filterMap · values) ?_
  funext v
  exact congrArg (Option.filter _) (valueType_onStore h v)

theorem receiverOf?_onStore {d : Descriptor} (hd : p.Apart d) :
    (p.onStore st).receiverOf? (p.onDescriptor d) =
      (st.receiverOf? d).map (Option.map p.onClassId) := by
  cases d with
  | function fn =>
    show (p.onStore st).receiver? fn = (st.receiver? fn).map _
    unfold Store.receiver?
    cases hparams : fn.params with
    | nil => rfl
    | cons first rest =>
      cases hscope : fn.scope with
      | none => rfl
      | some t =>
        have hne : t ≠ p.scope ∨ first ≠ p.label := by
          by_cases ht : t = p.scope
          · right
            rintro rfl
            refine (hd (by rw [hscope, ht])).2 ?_
            rw [hparams]
            exact List.mem_cons_self ..
          · exact .inl ht
        simp only [Option.map_some]
        rw [scope_onStore h.has, get?_vars_onScope hne]
        cases (st.scope t).vars.get? first with
        | none => rfl
        | some bound =>
          cases bound with
          | script id =>
            show some (if ((p.onStore st).cls (p.onClassId id)).isPlaceholder &&
                ((p.onStore st).cls (p.onClassId id)).scope = some t then _ else _) = _
            rw [cls_onStore h.base_le]
            show _ = some (Option.map p.onClassId (if _ then _ else _))
            split <;> rfl
          | _ => rfl
  | _ => rfl

/-- A class has the receivers that it had, even if the probe stands in its body. -/
theorem receivers_onStore {inner : ScopeId} (hplain : inner = p.scope → p.held.isMember = false) :
    (p.onStore st).receivers ((p.onStore st).scope inner).vars =
      (st.receivers (st.scope inner).vars).map p.onClassId := by
  have htable : (p.onTable (st.scope inner).vars).filterMap
        (fun b => ((p.onStore st).receiverOf? b.2).join) =
      ((st.scope inner).vars.filterMap (fun b => (st.receiverOf? b.2).join)).map p.onClassId := by
    unfold onTable
    rw [List.filterMap_map, List.map_filterMap]
    refine List.filterMap_congr fun b hb => ?_
    have hd := h.bound inner b (List.mem_append_left _ hb)
    show ((p.onStore st).receiverOf? (p.onDescriptor b.2)).join = _
    rw [receiverOf?_onStore h hd]
    cases st.receiverOf? b.2 <;> rfl
  have hprobe : (if inner = p.scope then [(p.label, p.held)] else []).filterMap
      (fun b => ((p.onStore st).receiverOf? b.2).join) = [] := by
    split
    · rename_i hinner
      have hplain := hplain hinner
      cases hheld : p.held with
      | function fn => simp [hheld, Descriptor.isMember] at hplain
      | _ => rfl
    · rfl
  unfold Store.receivers
  rw [scope_onStore h.has]
  show firstBy id ((p.onTable (st.scope inner).vars ++ _).filterMap _) = _
  rw [List.filterMap_append, htable, hprobe, List.append_nil, firstBy_map onClassId_injective]

theorem constructorParams_onStore {inner : ScopeId}
    (hplain : inner = p.scope → p.held.isMember = false) :
    Store.constructorParams ((p.onStore st).scope inner).vars =
      Store.constructorParams (st.scope inner).vars := by
  rw [scope_onStore h.has]
  show Store.constructorParams (p.onTable (st.scope inner).vars ++ _) = _
  unfold Store.constructorParams
  rw [Bindings.get?_append, get?_onTable]
  cases (st.scope inner).vars.get? (some "__init__") with
  | some d => cases d <;> rfl
  | none =>
    rw [Option.map_none, Option.none_or]
    split
    · rename_i fn hfn
      have hmem := Bindings.mem_of_get? hfn
      split at hmem
      · rename_i hinner
        have hplain := hplain hinner
        rw [← (Prod.mk.inj (List.mem_singleton.mp hmem)).2] at hplain
        simp [Descriptor.isMember] at hplain
      · simp at hmem
    · rfl

theorem ownMembers_onStore {inner : ScopeId}
    (hplain : inner = p.scope → p.held.isMember = false) :
    Store.ownMembers ((p.onStore st).scope inner).vars =
      Store.ownMembers (st.scope inner).vars := by
  have heq : ∀ table, Store.ownMembers table =
      (table.filter (fun b => b.2.isMember)).map (·.1) := by
    intro table
    unfold Store.ownMembers
    refine congrArg (fun keep => (List.filter keep table).map (·.1)) ?_
    funext ⟨label, d⟩
    cases d <;> rfl
  have hsame : (fun b : Label × Descriptor => b.2.isMember) ∘
      (fun b : Label × Descriptor => (b.1, p.onDescriptor b.2)) = fun b => b.2.isMember := by
    funext ⟨label, d⟩
    cases d <;> rfl
  have hprobe : (if inner = p.scope then [(p.label, p.held)] else []).filter
      (fun b => b.2.isMember) = [] := by
    split
    · simp [hplain ‹_›]
    · rfl
  rw [scope_onStore h.has, heq, heq]
  show ((p.onTable (st.scope inner).vars ++ _).filter _).map _ = _
  rw [List.filter_append, hprobe, List.append_nil, onTable, List.filter_map, hsame, List.map_map]
  rfl

/-- A body makes the class that it made. -/
theorem classOfBody_onStore {inner : ScopeId} (name : String) (bases : List String)
    (hplain : inner = p.scope → p.held.isMember = false) :
    (p.onStore st).classOfBody inner name bases = st.classOfBody inner name bases := by
  unfold Store.classOfBody
  dsimp only
  rw [constructorParams_onStore h hplain, ownMembers_onStore h hplain]

theorem gather_onStore (id : ClassId) (found : List ClassId) :
    (p.onStore st).gather (p.onClassId id) (found.map p.onClassId) =
      p.onStore (st.gather id found) := by
  unfold Store.gather
  induction found generalizing st with
  | nil => rfl
  | cons q rest ih =>
    rw [List.map_cons, List.foldl_cons, List.foldl_cons, cls_onStore h.base_le,
      modifyClass_onStore h.base_le]
    exact ih (h.putAll id _)

theorem Clear.gather (id : ClassId) (found : List ClassId) : p.Clear (st.gather id found) := by
  unfold Store.gather
  induction found generalizing st with
  | nil => exact h
  | cons q rest ih => exact ih (h.putAll id _)

theorem Clear.become (q id : ClassId) : p.Clear (st.modifyClass q (·.become (st.cls id))) :=
  h.modifyClass q (h.bases id)

theorem spread_onStore (id : ClassId) (found : List ClassId) :
    (p.onStore st).spread (p.onClassId id) (found.map p.onClassId) =
      p.onStore (st.spread id found) := by
  unfold Store.spread
  induction found generalizing st with
  | nil => rfl
  | cons q rest ih =>
    rw [List.map_cons, List.foldl_cons, List.foldl_cons, cls_onStore h.base_le,
      modifyClass_onStore h.base_le]
    exact ih (h.become q id)

theorem Clear.spread (id : ClassId) (found : List ClassId) : p.Clear (st.spread id found) := by
  unfold Store.spread
  induction found generalizing st with
  | nil => exact h
  | cons q rest ih => exact ih (h.become q id)

theorem Clear.classOfBody {inner : ScopeId} (hparent : (st.scope inner).parent ≠ none)
    (name : String) (bases : List String) :
    p.Clear (st.addClass (st.classOfBody inner name bases)).2 := by
  refine h.addClass fun _ hhome => ?_
  obtain ⟨q, hq⟩ := Option.ne_none_iff_exists'.mp hparent
  refine h.parents inner ?_
  simpa [Store.home?, Store.classOfBody, hq] using hhome

/-- Closing a class does with the probe what it does without. -/
theorem closeClass_onStore {outer inner : ScopeId} (hst : st.Sound) (hst' : (p.onStore st).Sound)
    (houter : outer ≠ p.scope) (hparent : (st.scope inner).parent ≠ none)
    (hplain : inner = p.scope → p.held.isMember = false) (name : String) (bases : List String) :
    (p.onStore st).closeClass outer inner name bases =
      p.onOutcome (st.closeClass outer inner name bases) := by
  have hclear := h.classOfBody hparent name bases
  rw [Store.closeClass_eq hst, Store.closeClass_eq hst', classOfBody_onStore h name bases hplain,
    receivers_onStore h hplain, addClass_onStore h.base_le]
  dsimp only
  rw [gather_onStore hclear, spread_onStore (hclear.gather _ _)]
  exact congrArg Outcome.done (bindVar_onStore houter (some name) (.script _))

theorem Clear.closeClass {outer inner : ScopeId} (hst : st.Sound) (houter : st.HasScope outer)
    (hparent : (st.scope inner).parent ≠ none) (name : String) (bases : List String) :
    p.Clear (st.closeClass outer inner name bases).store := by
  rw [Store.closeClass_eq hst]
  have hclear := h.classOfBody hparent name bases
  refine ((hclear.gather _ _).spread _ _).bindVar ?_ (some name) trivial
  simpa [Store.HasScope] using houter

end Ends

/-! ### Whole definitions -/

section Definitions

variable {name : String} {body body' : List Stmt} (hs : Store.Stands ctx st s) (hne : s ≠ p.scope)

include hs hne

/-- A function whose body was walked past the probe ends as it did without. -/
theorem function_onStore {params : List Label}
    (hbody : st.innerWalk s none params body' = p.onStore (st.innerWalk s none params body))
    (h : p.Clear (st.innerWalk s none params body))
    (hreturns : (st.innerWalk s none params body').returnType (st.addChild s none).1 body' =
      (st.innerWalk s none params body).returnType (st.addChild s none).1 body)
    (hapart : ∀ returns, (st.innerWalk s none params body).returnType (st.addChild s none).1 body =
      some returns → p.Apart (.function ⟨name, returns, params, some (st.addChild s none).1⟩)) :
    Store.walkStmt s (.function name (some params) body') st =
        p.onOutcome (Store.walkStmt s (.function name (some params) body) st) ∧
      p.Clear (Store.walkStmt s (.function name (some params) body) st).store := by
  rw [Store.walkStmt_function_eq, Store.walkStmt_function_eq, hreturns, hbody]
  cases hreturn : (st.innerWalk s none params body).returnType (st.addChild s none).1 body with
  | none => exact ⟨rfl, h⟩
  | some returns =>
    refine ⟨congrArg Outcome.done (bindVar_onStore hne (some name) (.function _)), ?_⟩
    exact h.bindVar (hs.after_innerWalk none params body).has (some name) (hapart returns hreturn)

/-- So does a class. -/
theorem classDef_onStore {bases : List Expr} (hbases : p.label ∉ Expr.accessedIn bases)
    (hbody : st.innerWalk s (some name) [] body' = p.onStore (st.innerWalk s (some name) [] body))
    (h : p.Clear (st.innerWalk s (some name) [] body)) :
    Store.walkStmt s (.classDef name bases body') st =
        p.onOutcome (Store.walkStmt s (.classDef name bases body) st) ∧
      p.Clear (Store.walkStmt s (.classDef name bases body) st).store := by
  have hmid := hs.after_innerWalk (some name) [] body
  have hmid' := hs.after_innerWalk (some name) [] body'
  have hparent : ((st.innerWalk s (some name) [] body).scope
      (st.addChild s (some name)).1).parent ≠ none := by
    rw [Store.parent_innerWalk hs.sound hs.has]
    simp
  have hplain : (st.addChild s (some name)).1 = p.scope → p.held.isMember = false := by
    intro hinner
    refine h.plain ?_
    rw [← hinner, Store.className_innerWalk hs.sound hs.has]
    simp
  rw [Store.walkStmt_classDef_eq, Store.walkStmt_classDef_eq, hbody,
    baseNames_onStore h hne hbases]
  rw [hbody] at hmid'
  cases (st.innerWalk s (some name) [] body).baseNames s bases with
  | none => exact ⟨rfl, h⟩
  | some superclasses =>
    exact ⟨closeClass_onStore h hmid.sound hmid'.sound hne hparent hplain name superclasses,
      h.closeClass hmid.sound hmid.has hparent name superclasses⟩

end Definitions

end Probe

end ScriptScope
