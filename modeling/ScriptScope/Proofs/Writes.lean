import ScriptScope.Proofs.BoundNames
import ScriptScope.Proofs.Provenance
import ScriptScope.Proofs.Receivers
import ScriptScope.Proofs.Trace

/-!
# What a walk writes

`Write` lists everything that walking statements does to a store, one write at a time.  The scopes
that are written to, the names that are bound and the terms on which functions are bound and classes
take receivers over are parameters: a walk in a scope `s` writes to `s` and to the scopes it opens,
binds the names that its statements bind, and binds no functions and unifies no classes but those
that it has or defines (`writes_walkBody`).  What a walk preserves and what it leaves alone
(`Change`) is shown for single writes and follows for all of them.
-/

namespace ScriptScope.Store

/-! ### Single writes -/

/-- The class that a body makes, before it is unified. -/
def classOfBody (st : Store) (inner : ScopeId) (name : String) (bases : List String) : ClassInfo :=
  let table := (st.scope inner).vars
  ⟨name, bases, constructorParams table, ownMembers table, some inner⟩

/-- One write to a store: to a scope among `may`, binding a name among `names`; or to a class. -/
inductive Write (may : ScopeId → Prop) (names : Label → Prop) (terms : Terms) (st : Store) :
    Store → Prop
  | var {t : ScopeId} {label : Label} {d : Descriptor} (allowed : may t) (bound : names label)
    (has : st.HasScope t) (held : st.Holds d) (value : terms.Allows (.held d)) :
    Write may names terms st (st.bindVar t label d)
  | imported {t : ScopeId} {label : Label} {name : String} (allowed : may t) (bound : names label)
    (has : st.HasScope t) : Write may names terms st (st.bindImport t label (.static name))
  | opened {t : ScopeId} (className : Option String) (allowed : may t) (has : st.HasScope t) :
    Write may names terms st (st.addChild t className).2
  /-- A parameter or a builtin name gets a class. -/
  | made {info : ClassInfo} (stands : ∀ s, info.scope = some s → st.HasScope s)
    (named : info.Named) : Write may names terms st (st.addClass info).2
  /-- The body of a class is finished. -/
  | closed {inner : ScopeId} (name : String) (bases : List String) (has : st.HasScope inner) :
    Write may names terms st (st.addClass (st.classOfBody inner name bases)).2
  /-- Members are registered that have a name or are those of another class. -/
  | grown (id : ClassId) {members : List Label}
    (known : ∀ m ∈ members, m.isSome = true ∨ ∃ p, m ∈ (st.cls p).members) :
    Write may names terms st (st.modifyClass id (·.putAll members))
  /-- A placeholder becomes a class. -/
  | unified {p id : ClassId} (isOpen : (st.cls p).isPlaceholder = true) (has : st.HasClass id)
    (taker : terms.taker (st.cls id).name id) :
    Write may names terms st (st.modifyClass p (·.become (st.cls id)))

/-- Any number of writes on given terms. -/
abbrev WritesOn (may : ScopeId → Prop) (names : Label → Prop) (terms : Terms) :
    Store → Store → Prop :=
  Relation.ReflTransGen (Write may names terms)

/-- Any number of writes. -/
abbrev Writes (may : ScopeId → Prop) (names : Label → Prop) : Store → Store → Prop :=
  WritesOn may names .free

/-- What writes leave alone. -/
structure Change (may : ScopeId → Prop) (names : Label → Prop) (st st' : Store) : Prop where
  scopes_le : st.scopes.length ≤ st'.scopes.length
  classes_le : st.classes.length ≤ st'.classes.length
  /-- A scope that may not be written to is as before. -/
  elsewhere : ∀ t, st.HasScope t → ¬ may t → st'.scope t = st.scope t
  parent : ∀ t, st.HasScope t → (st'.scope t).parent = (st.scope t).parent
  className : ∀ t, st.HasScope t → (st'.scope t).className = (st.scope t).className
  context : ∀ t, st.HasScope t → (st'.scope t).context = (st.scope t).context
  /-- A variable that may not be bound is what it was before. -/
  vars : ∀ t label, ¬ names label →
    (st'.scope t).vars.get? label = (st.scope t).vars.get? label
  /-- So is an import. -/
  imports : ∀ t label, ¬ names label →
    (st'.scope t).imports.get? label = (st.scope t).imports.get? label

variable {may : ScopeId → Prop} {names : Label → Prop} {terms : Terms} {st st' st'' : Store}

theorem Change.refl (may : ScopeId → Prop) (names : Label → Prop) (st : Store) :
    Change may names st st :=
  ⟨Nat.le_refl _, Nat.le_refl _, fun _ _ _ => rfl, fun _ _ => rfl, fun _ _ => rfl, fun _ _ => rfl,
    fun _ _ _ => rfl, fun _ _ _ => rfl⟩

/-- A scope stays in the store. -/
theorem Change.hasScope (h : Change may names st st') {t : ScopeId} (ht : st.HasScope t) :
    st'.HasScope t :=
  Nat.lt_of_lt_of_le ht h.scopes_le

theorem Change.trans (h₁ : Change may names st st') (h₂ : Change may names st' st'') :
    Change may names st st'' where
  scopes_le := Nat.le_trans h₁.scopes_le h₂.scopes_le
  classes_le := Nat.le_trans h₁.classes_le h₂.classes_le
  elsewhere t ht hno :=
    (h₂.elsewhere t (h₁.hasScope ht) hno).trans (h₁.elsewhere t ht hno)
  parent t ht := (h₂.parent t (h₁.hasScope ht)).trans (h₁.parent t ht)
  className t ht := (h₂.className t (h₁.hasScope ht)).trans (h₁.className t ht)
  context t ht := (h₂.context t (h₁.hasScope ht)).trans (h₁.context t ht)
  vars t label hno := (h₂.vars t label hno).trans (h₁.vars t label hno)
  imports t label hno := (h₂.imports t label hno).trans (h₁.imports t label hno)

/-- A name that may not be bound is looked up as before. -/
theorem Change.lookup (h : Change may names st st') (t : ScopeId) (label : Label)
    (hno : ¬ names label) : (st'.scope t).lookup? label = (st.scope t).lookup? label := by
  unfold ScopeInfo.lookup?
  rw [h.vars t label hno, h.imports t label hno]

/-- Writing to classes alone changes no scope. -/
theorem Change.of_scopes_eq (hscopes : st'.scopes = st.scopes)
    (hclasses : st.classes.length ≤ st'.classes.length) : Change may names st st' := by
  have hread : ∀ t, st'.scope t = st.scope t := scope_of_scopes_eq hscopes
  exact ⟨Nat.le_of_eq (by rw [hscopes]), hclasses, fun t _ _ => hread t, fun t _ => by rw [hread],
    fun t _ => by rw [hread], fun t _ => by rw [hread], fun t _ _ => by rw [hread],
    fun t _ _ => by rw [hread]⟩

/-- A variable is what it was before if another one was bound. -/
theorem get?_vars_bindVar_of_ne (st : Store) (s t : ScopeId) {label other : Label} (d : Descriptor)
    (h : other ≠ label) :
    ((st.bindVar s label d).scope t).vars.get? other = (st.scope t).vars.get? other := by
  refine scope_modifyScope_field st _ (fun info => info.vars.get? other) fun info => ?_
  simp only [Bindings.get?_bind, h, ↓reduceIte]

theorem get?_imports_bindImport_of_ne (st : Store) (s t : ScopeId) {label other : Label}
    (d : Descriptor) (h : other ≠ label) :
    ((st.bindImport s label d).scope t).imports.get? other = (st.scope t).imports.get? other := by
  refine scope_modifyScope_field st _ (fun info => info.imports.get? other) fun info => ?_
  simp only [Bindings.get?_bind, h, ↓reduceIte]

/-- Opening a scope changes no table. -/
theorem tables_addChild {s : ScopeId} (className : Option String) (hs : st.HasScope s)
    (t : ScopeId) : ((st.addChild s className).2.scope t).vars = (st.scope t).vars ∧
      ((st.addChild s className).2.scope t).imports = (st.scope t).imports := by
  rcases st.addChild_cases s className t with rfl | rfl | e
  · have hnew : ¬ st.HasScope (st.addChild s className).1 := Nat.lt_irrefl _
    rw [scope_addChild_new, scope_of_not_hasScope hnew]
    exact ⟨rfl, rfl⟩
  · rw [scope_addChild_self st className hs]
    exact ⟨rfl, rfl⟩
  · rw [e]
    exact ⟨rfl, rfl⟩

theorem Change.addChild {s : ScopeId} (className : Option String) (hmay : may s)
    (hs : st.HasScope s) : Change may names st (st.addChild s className).2 := by
  -- an old scope is changed at most in its children
  have hold : ∀ {α : Type} (g : ScopeInfo → α) (t : ScopeId), st.HasScope t →
      (∀ info children, g { info with children } = g info) →
      g ((st.addChild s className).2.scope t) = g (st.scope t) := by
    intro α g t ht hg
    rcases st.addChild_cases s className t with rfl | rfl | e
    · exact absurd ht (Nat.lt_irrefl _)
    · rw [scope_addChild_self st className hs, hg]
    · rw [e]
  refine ⟨by simp, by simp, ?_, ?_, ?_, ?_, ?_, ?_⟩
  · intro t ht hno
    rcases st.addChild_cases s className t with rfl | rfl | e
    · exact absurd ht (Nat.lt_irrefl _)
    · exact absurd hmay hno
    · exact e
  · exact fun t ht => hold ScopeInfo.parent t ht fun _ _ => rfl
  · exact fun t ht => hold ScopeInfo.className t ht fun _ _ => rfl
  · exact fun t ht => hold ScopeInfo.context t ht fun _ _ => rfl
  · intro t label _
    rw [(tables_addChild className hs t).1]
  · intro t label _
    rw [(tables_addChild className hs t).2]

theorem Write.change (h : Write may names terms st st') : Change may names st st' := by
  cases h with
  | @var t label d allowed bound has held value =>
    refine ⟨by simp, by simp, ?_, by simp, by simp, by simp, ?_, by simp⟩
    · intro u _ hno
      exact scope_bindVar_of_ne st label d fun e => hno (e ▸ allowed)
    · intro u other hno
      exact get?_vars_bindVar_of_ne st t u d fun e => hno (e ▸ bound)
  | @imported t label name allowed bound has =>
    refine ⟨by simp, by simp, ?_, by simp, by simp, by simp, by simp, ?_⟩
    · intro u _ hno
      exact scope_bindImport_of_ne st label _ fun e => hno (e ▸ allowed)
    · intro u other hno
      exact get?_imports_bindImport_of_ne st t u _ fun e => hno (e ▸ bound)
  | opened className allowed has => exact .addChild className allowed has
  | made stands named => exact .of_scopes_eq rfl (by simp)
  | closed name bases has => exact .of_scopes_eq rfl (by simp)
  | grown id known => exact .of_scopes_eq rfl (by simp)
  | unified isOpen has taker => exact .of_scopes_eq rfl (by simp)

theorem Write.sound (h : Write may names terms st st') (hst : st.Sound) : st'.Sound := by
  cases h with
  | var allowed bound has held value => exact hst.bindVar _ has held
  | imported allowed bound has => exact hst.bindImport _ has trivial
  | opened className allowed has => exact hst.addChild className has
  | made stands named => exact hst.addClass stands
  | closed name bases has =>
    refine hst.addClass fun s hs => ?_
    rw [← Option.some.inj hs]
    exact has
  | grown id known =>
    refine hst.modifyClass fun s hs => ?_
    rw [ClassInfo.scope_putAll] at hs
    exact hst.class_scope id s hs
  | @unified p id isOpen has taker => exact hst.modifyClass fun s hs => hst.class_scope id s hs

section Every

variable {P : Label × Descriptor → Prop} (hst : st.Every P) {t : ScopeId} (ht : st.HasScope t)

include hst ht

/-- Binding a variable brings no binding but this. -/
theorem Every.bindVar {label : Label} {d : Descriptor} (hd : P (label, d)) :
    (st.bindVar t label d).Every P := by
  intro u b hb
  by_cases hu : u = t
  · rw [hu, vars_bindVar_self st label d ht, imports_bindVar, List.mem_append] at hb
    rcases hb with hb | hb
    · rcases Bindings.mem_of_mem_bind hb with hb | rfl
      · exact hst t b (List.mem_append_left _ hb)
      · exact hd
    · exact hst t b (List.mem_append_right _ hb)
  · rw [scope_bindVar_of_ne st label d hu] at hb
    exact hst u b hb

theorem Every.bindImport {label : Label} {d : Descriptor} (hd : P (label, d)) :
    (st.bindImport t label d).Every P := by
  intro u b hb
  by_cases hu : u = t
  · rw [hu, vars_bindImport, imports_bindImport_self st label d ht, List.mem_append] at hb
    rcases hb with hb | hb
    · exact hst t b (List.mem_append_left _ hb)
    · rcases Bindings.mem_of_mem_bind hb with hb | rfl
      · exact hst t b (List.mem_append_right _ hb)
      · exact hd
  · rw [scope_bindImport_of_ne st label d hu] at hb
    exact hst u b hb

theorem Every.addChild (className : Option String) : (st.addChild t className).2.Every P := by
  intro u b hb
  rw [(tables_addChild className ht u).1, (tables_addChild className ht u).2] at hb
  exact hst u b hb

end Every

theorem Write.functions (h : Write may names terms st st') (hst : st.Functions terms.function) :
    st'.Functions terms.function := by
  cases h with
  | @var t label d allowed bound has held value =>
    refine Every.bindVar hst has fun fn (hfn : d = .function fn) => ?_
    rw [hfn] at value
    exact value
  | imported allowed bound has => exact Every.bindImport hst has (by simp)
  | opened className allowed has => exact Every.addChild hst has className
  -- the tables do not change
  | made stands named => exact hst
  | closed name bases has => exact hst
  | grown id known => exact hst
  | unified isOpen has taker => exact hst

/-- What may be written may be written where more may be. -/
theorem WritesOn.mono {may' : ScopeId → Prop} {names' : Label → Prop} {terms' : Terms}
    (hmay : ∀ t, may t → may' t) (hnames : ∀ label, names label → names' label)
    (hfunction : ∀ fn, terms.function fn → terms'.function fn)
    (htaker : ∀ name id, terms.taker name id → terms'.taker name id)
    (h : WritesOn may names terms st st') : WritesOn may' names' terms' st st' := by
  refine Relation.ReflTransGen.mono (fun st st' hwrite => ?_) _ _ h
  have hvalue : ∀ d, terms.Allows (.held d) → terms'.Allows (.held d) := by
    intro d hd
    cases d with
    | function fn => exact hfunction fn hd
    | _ => trivial
  cases hwrite with
  | var allowed bound has held value =>
    exact .var (hmay _ allowed) (hnames _ bound) has held (hvalue _ value)
  | imported allowed bound has => exact .imported (hmay _ allowed) (hnames _ bound) has
  | opened className allowed has => exact .opened className (hmay _ allowed) has
  | made stands named => exact .made stands named
  | closed name bases has => exact .closed name bases has
  | grown id known => exact .grown id known
  | unified isOpen has taker => exact .unified isOpen has (htaker _ _ taker)

/-- What is written on some terms is written. -/
theorem WritesOn.writes (h : WritesOn may names terms st st') : Writes may names st st' :=
  h.mono (fun _ => id) (fun _ => id) (fun _ _ => trivial) fun _ _ _ => trivial

/-- What is written somewhere is written. -/
theorem WritesOn.anywhere (h : WritesOn may names terms st st') :
    WritesOn (fun _ => True) (fun _ => True) terms st st' :=
  h.mono (fun _ _ => trivial) (fun _ _ => trivial) (fun _ => id) fun _ _ => id

theorem Writes.change (h : Writes may names st st') : Change may names st st' := by
  induction h with
  | refl => exact .refl ..
  | tail _ hwrite ih => exact ih.trans hwrite.change

theorem Writes.sound (h : Writes may names st st') (hst : st.Sound) : st'.Sound := by
  induction h with
  | refl => exact hst
  | tail _ hwrite ih => exact hwrite.sound ih

theorem WritesOn.functions (h : WritesOn may names terms st st')
    (hst : st.Functions terms.function) : st'.Functions terms.function := by
  induction h with
  | refl => exact hst
  | tail _ hwrite ih => exact hwrite.functions ih

/-! ### Where a walk stands -/

/-- A walk stands in a scope of a sound store: it may write to this scope and to all that are yet to
be opened. -/
structure Standing (ctx : Context) (may : ScopeId → Prop) (st : Store) (s : ScopeId) : Prop where
  sound : st.Sound
  has : st.HasScope s
  context : (st.scope s).context = ctx
  here : may s
  later : ∀ t : ScopeId, st.scopes.length ≤ t.index → may t

variable {ctx : Context} {s : ScopeId}

/-- After writing, a walk stands where it stood. -/
theorem Standing.after (h : Standing ctx may st s) (w : Writes may names st st') :
    Standing ctx may st' s where
  sound := w.sound h.sound
  has := w.change.hasScope h.has
  context := (w.change.context s h.has).trans h.context
  here := h.here
  later t ht := h.later t (Nat.le_trans w.change.scopes_le ht)

/-- A walk that opens a scope stands in the new one. -/
theorem Standing.inner (h : Standing ctx may st s) (className : Option String) :
    Standing ctx may (st.addChild s className).2 (st.addChild s className).1 where
  sound := h.sound.addChild className h.has
  has := by simp [HasScope]
  context := by
    rw [scope_addChild_new]
    exact h.context
  here := h.later _ (Nat.le_refl _)
  later t ht := h.later t (by rw [length_scopes_addChild] at ht; omega)

/-! ### Keeping to terms -/

/-- A walk that keeps to terms stands in a store that binds no functions but those it may bind. -/
structure Keeping (ctx : Context) (may : ScopeId → Prop) (terms : Terms) (st : Store)
    (s : ScopeId) : Prop extends Standing ctx may st s where
  functions : st.Functions terms.function

theorem Standing.free (h : Standing ctx may st s) : Keeping ctx may .free st s :=
  ⟨h, fun _ _ _ _ _ => trivial⟩

theorem Keeping.after (h : Keeping ctx may terms st s) (w : WritesOn may names terms st st') :
    Keeping ctx may terms st' s :=
  ⟨h.toStanding.after w.writes, w.functions h.functions⟩

theorem Keeping.inner (h : Keeping ctx may terms st s) (className : Option String) :
    Keeping ctx may terms (st.addChild s className).2 (st.addChild s className).1 :=
  ⟨h.toStanding.inner className, Every.addChild h.functions h.has className⟩

/-- A value that can be bound: the store holds it, and the terms allow it. -/
structure Admits (st : Store) (terms : Terms) (v : Value) : Prop where
  held : st.HoldsValue v
  allowed : terms.Allows v

/-- Whatever is inferred can be bound. -/
theorem Keeping.admits_infer (h : Keeping ctx may terms st s) {e : Expr} {v : Value}
    (hv : st.infer s e = some v) : st.Admits terms v :=
  ⟨h.sound.holdsValue_infer h.has hv, h.functions.allows_infer hv⟩

/-- What can be bound can be bound after writing. -/
theorem Admits.after {v : Value} (hv : st.Admits terms v) (h : Change may names st st') :
    st'.Admits terms v := by
  refine ⟨?_, hv.allowed⟩
  cases v with
  | held d => exact Holds.mono h.scopes_le h.classes_le hv.held
  | made info => exact fun s hs => h.hasScope (hv.held s hs)

theorem admits_unknown : st.Admits terms .unknown :=
  ⟨trivial, trivial⟩

/-! ### Bindings -/

theorem Keeping.writes_bindVar (h : Keeping ctx may terms st s) {label : Label}
    (hlabel : names label) {d : Descriptor} (hd : st.Admits terms (.held d)) :
    WritesOn may names terms st (st.bindVar s label d) :=
  .single (.var h.here hlabel h.has hd.held hd.allowed)

/-- What enters the store to be bound can be bound. -/
theorem admits_hold {v : Value} (hv : st.Admits terms v) :
    (st.hold v).2.Admits terms (.held (st.hold v).1) := by
  cases v with
  | held d => exact hv
  | made info =>
    refine ⟨?_, trivial⟩
    simp [hold, HoldsValue, Holds, HasClass]

theorem writes_hold {v : Value} (hv : st.Admits terms v) :
    WritesOn may names terms st (st.hold v).2 := by
  cases v with
  | held d => exact .refl
  | made info => exact .single (.made hv.held hv.allowed)

theorem Keeping.writes_assign (h : Keeping ctx may terms st s) {label : Label}
    (hlabel : names label) {v : Value} (hv : st.Admits terms v) :
    WritesOn may names terms st (st.assign s label v) := by
  have hhold : WritesOn may names terms st (st.hold v).2 := writes_hold hv
  exact hhold.trans ((h.after hhold).writes_bindVar hlabel (admits_hold hv))

/-- Doing things in turn writes what each of them writes. -/
theorem Keeping.writes_foldl {α : Type} {step : Store → α → Store} (items : List α)
    (hstep : ∀ a ∈ items, ∀ st, Keeping ctx may terms st s →
      WritesOn may names terms st (step st a)) :
    ∀ {st : Store}, Keeping ctx may terms st s →
      WritesOn may names terms st (items.foldl step st) := by
  induction items with
  | nil => exact fun _ => .refl
  | cons a rest ih =>
    intro st h
    have hfirst := hstep a (List.mem_cons_self ..) st h
    exact hfirst.trans
      (ih (fun b hb => hstep b (List.mem_cons_of_mem _ hb)) (h.after hfirst))

/-- Going on after a piece of work writes no more than both write. -/
theorem Keeping.writes_andThen {o : Outcome} {next : Store → Outcome}
    (h : Keeping ctx may terms st s) (ho : WritesOn may names terms st o.store)
    (hnext : o.completed = true → Keeping ctx may terms o.store s →
      WritesOn may names terms o.store (next o.store).store) :
    WritesOn may names terms st (o.andThen next).store := by
  unfold Outcome.andThen
  split
  · rename_i hend
    exact ho.trans (hnext hend (h.after ho))
  · exact ho

theorem Keeping.writes_eachInTurn {α : Type} {step : α → Store → Outcome} (items : List α)
    (hstep : ∀ a ∈ items, ∀ {st}, Keeping ctx may terms st s →
      WritesOn may names terms st (step a st).store) :
    ∀ {st : Store}, Keeping ctx may terms st s →
      WritesOn may names terms st (eachInTurn step items st).store := by
  induction items with
  | nil => exact fun _ => .refl
  | cons a rest ih =>
    intro st h
    exact h.writes_andThen (hstep a (List.mem_cons_self ..) h)
      fun _ => ih fun b hb => hstep b (List.mem_cons_of_mem _ hb)

theorem Keeping.writes_importName (h : Keeping ctx may terms st s) (item : ImportItem)
    (hnames : ∀ label ∈ item.bound, names label) :
    WritesOn may names terms st (importName s item st).store := by
  unfold importName
  split
  · exact .single (.imported h.here (hnames _ (by simp [ImportItem.bound])) h.has)
  · exact .single (.imported h.here (hnames _ (by simp [ImportItem.bound])) h.has)
  · exact .refl
  · exact .refl
  · exact .refl

theorem Keeping.writes_importFrom (h : Keeping ctx may terms st s) (source : String)
    (item : ImportItem) (hnames : ∀ label ∈ item.boundFrom, names label) :
    WritesOn may names terms st (importFrom s source item st).store := by
  unfold importFrom
  split
  · exact .single (.imported h.here (hnames _ (by simp [ImportItem.boundFrom])) h.has)
  · exact .single (.imported h.here (hnames _ (by simp [ImportItem.boundFrom])) h.has)
  · exact .refl
  · exact .refl
  · exact .refl

theorem Keeping.writes_importAll (h : Keeping ctx may terms st s) (source : String)
    (hnames : ∀ name ∈ (ctx.moduleMembers source).getD [], names (some name)) :
    WritesOn may names terms st (st.importAll s source) := by
  unfold importAll
  rw [h.context]
  refine Keeping.writes_foldl _ (fun name hname st h => ?_) h
  exact .single (.imported h.here (hnames name hname) h.has)

/-! ### Assignments -/

/-- Registering a name is a write. -/
theorem Write.put (id : ClassId) (member : String) :
    Write may names terms st (st.modifyClass id (·.put (some member))) :=
  @Write.grown may names terms st id [some member] (by simp)

theorem writes_registerPath (owner : Value) (path : List Label) (st : Store) :
    WritesOn may names terms st (registerPath owner path st) := by
  fun_induction registerPath owner path st with
  | case1 => exact .refl
  | case2 rest st id member st₁ d hd ih => exact .head (.put id member) ih
  | case3 rest st id member st₁ hd => exact .single (.put id member)
  | case4 rest st info member d hd ih => exact ih
  | case5 => exact .refl
  | case6 => exact .refl

/-- The values inferred for a group can be bound. -/
theorem Keeping.admits_inferGroup (h : Keeping ctx may terms st s) {items : List Pattern}
    {values : List Expr} {inferred : List Value}
    (hi : st.inferGroup s items values = some inferred) :
    ∀ v ∈ inferred, st.Admits terms v := by
  intro v hv
  obtain ⟨⟨item, value⟩, -, hx⟩ := exists_of_mem_mapM hi hv
  dsimp only at hx
  split at hx
  · exact h.admits_infer hx
  · rw [← Option.some.inj hx]
    exact admits_unknown

/-- There are as many values inferred for a group as it has targets. -/
theorem length_inferGroup {items : List Pattern} {values : List Expr} {inferred : List Value}
    (hi : st.inferGroup s items values = some inferred) (hlen : items.length = values.length) :
    inferred.length = values.length := by
  have := (mapM_eq_some_iff.mp hi).length_eq
  rw [List.length_zip] at this
  omega

/-- A target that is not a name is taken apart when its turn comes. -/
theorem bindGroup_cons {item : Pattern} (hitem : ∀ label, item ≠ .name label) (rest : List Pattern)
    (value : Expr) (v : Value) (others : List (Expr × Value)) (st : Store) :
    bindGroup s (item :: rest) ((value, v) :: others) st =
      (destructure s item value st).andThen (bindGroup s rest others) := by
  rw [bindGroup]
  exact fun label => hitem label

mutual

theorem Keeping.writes_destructure (target : Pattern) (value : Expr) {st : Store}
    (h : Keeping ctx may terms st s) (hnames : ∀ label ∈ target.bound value, names label) :
    WritesOn may names terms st (destructure s target value st).store := by
  cases target with
  | group items =>
    cases value with
    | sequence values =>
      rw [destructure]
      rw [Pattern.bound] at hnames
      split
      · exact .refl
      · rename_i hmatch
        rw [ite_cond_eq_false _ _ (eq_false hmatch)] at hnames
        cases hi : st.inferGroup s items values with
        | none => exact .refl
        | some inferred =>
          -- each target has a value of its own
          have hlen : items.length = values.length := by
            by_contra hne
            exact hmatch (.inl hne)
          have hfst : (values.zip inferred).map Prod.fst = values :=
            List.map_fst_zip (Nat.le_of_eq (length_inferGroup hi hlen).symm)
          refine Keeping.writes_bindGroup items (values.zip inferred) h ?_ ?_
          · rwa [hfst]
          · intro v hv
            exact h.admits_inferGroup hi v.2 (List.of_mem_zip hv).2
    | _ => exact .refl
  | _ => exact .refl

theorem Keeping.writes_bindGroup (items : List Pattern) (values : List (Expr × Value)) {st : Store}
    (h : Keeping ctx may terms st s)
    (hnames : ∀ label ∈ Pattern.boundInGroup items (values.map Prod.fst), names label)
    (hvalues : ∀ v ∈ values, st.Admits terms v.2) :
    WritesOn may names terms st (bindGroup s items values st).store := by
  match items, values with
  | [], _ =>
    rw [bindGroup]
    · exact .refl
    · simp
    · simp
  | _ :: _, [] =>
    rw [bindGroup]
    · exact .refl
    · simp
    · simp
  | item :: rest, (value, v) :: others =>
    rw [List.forall_mem_cons] at hvalues
    rw [List.map_cons] at hnames
    by_cases hitem : ∃ label, item = .name label
    · obtain ⟨label, rfl⟩ := hitem
      rw [Pattern.boundInGroup, List.forall_mem_cons] at hnames
      rw [bindGroup]
      have hassign : WritesOn may names terms st (st.assign s label v) :=
        h.writes_assign hnames.1 hvalues.1
      refine hassign.trans (Keeping.writes_bindGroup rest others (h.after hassign) hnames.2 ?_)
      exact fun w hw => (hvalues.2 w hw).after hassign.writes.change
    · have hitem' : ∀ label, item ≠ .name label := fun label e => hitem ⟨label, e⟩
      rw [Pattern.boundInGroup_cons hitem', List.forall_mem_append] at hnames
      rw [bindGroup_cons hitem']
      have hfirst := Keeping.writes_destructure item value h hnames.1
      refine h.writes_andThen hfirst fun _ hnext => ?_
      refine Keeping.writes_bindGroup rest others hnext hnames.2 ?_
      exact fun w hw => (hvalues.2 w hw).after hfirst.writes.change

end

theorem Keeping.writes_bindTargets (value : Expr) (known : Option Descriptor)
    (targets : List Pattern) {st : Store} (h : Keeping ctx may terms st s)
    (hnames : ∀ label ∈ targets.flatMap (Pattern.assigned value), names label)
    (hknown : ∀ d, known = some d → st.Admits terms (.held d)) :
    WritesOn may names terms st (bindTargets s value known targets st).store := by
  induction targets generalizing st known with
  | nil => exact .refl
  | cons target rest ih =>
    rw [List.flatMap_cons, List.forall_mem_append] at hnames
    cases target with
    | name label =>
      have hlabel : names label := hnames.1 label (List.mem_singleton_self label)
      cases known with
      | some d =>
        rw [bindTargets]
        have hbind : WritesOn may names terms st (st.bindVar s label d) :=
          h.writes_bindVar hlabel (hknown d rfl)
        refine hbind.trans (ih (some d) (h.after hbind) hnames.2 ?_)
        exact fun d' e => (hknown d' e).after hbind.writes.change
      -- the first name infers the value, and the names after it share it
      | none =>
        unfold bindTargets
        dsimp only
        cases hi : st.infer s value with
        | none => exact .refl
        | some v =>
          have hv := h.admits_infer hi
          have hhold : WritesOn may names terms st (st.hold v).2 := writes_hold hv
          have hbind : WritesOn may names terms (st.hold v).2 (st.assign s label v) :=
            (h.after hhold).writes_bindVar hlabel (admits_hold hv)
          refine (hhold.trans hbind).trans
            (ih (some (st.hold v).1) ((h.after hhold).after hbind) hnames.2 ?_)
          intro d e
          rw [← Option.some.inj e]
          exact (admits_hold hv).after hbind.writes.change
    | group items =>
      rw [bindTargets]
      have hfirst := Keeping.writes_destructure (.group items) value h hnames.1
      refine h.writes_andThen hfirst fun _ hnext => ih known hnext hnames.2 ?_
      exact fun d e => (hknown d e).after hfirst.writes.change
    | member root path =>
      rw [bindTargets]
      have hfirst : WritesOn may names terms st (registerPath (st.find s root) path st) :=
        writes_registerPath _ _ _
      refine hfirst.trans (ih known (h.after hfirst) hnames.2 ?_)
      exact fun d e => (hknown d e).after hfirst.writes.change
    | splat items => exact ih known h hnames.2 hknown
    | other => exact ih known h hnames.2 hknown
    | fault => exact .refl

theorem Keeping.writes_walkAssignment (h : Keeping ctx may terms st s) (item : Assignment)
    (hnames : ∀ label ∈ item.bound, names label) :
    WritesOn may names terms st (walkAssignment s item st).store := by
  cases item with
  | fault => exact .refl
  | mk targets value =>
    cases value with
    | none => exact .refl
    | some value => exact Keeping.writes_bindTargets value none targets h hnames (by simp)

/-! ### Definitions -/

theorem Keeping.writes_bindParams (h : Keeping ctx may terms st s) (params : List Label)
    (hnames : ∀ label ∈ params, names label) :
    WritesOn may names terms st (bindParams s params st) := by
  unfold bindParams
  refine Keeping.writes_foldl params (fun label hlabel st h => ?_) h
  refine h.writes_assign (hnames label hlabel) ⟨?_, ClassInfo.named_placeholder s⟩
  intro t ht
  rw [← Option.some.inj ht]
  exact h.has

theorem writes_gather (id : ClassId) (found : List ClassId) (st : Store) :
    WritesOn may names terms st (st.gather id found) := by
  unfold gather
  induction found generalizing st with
  | nil => exact .refl
  | cons p rest ih => exact .head (.grown id fun m hm => .inr ⟨p, hm⟩) (ih _)

theorem writes_spread {id : ClassId} {found : List ClassId} (hid : id ∉ found)
    (hhas : st.HasClass id) (htaker : terms.taker (st.cls id).name id) (hnodup : found.Nodup)
    (hopen : ∀ p ∈ found, (st.cls p).isPlaceholder = true) :
    WritesOn may names terms st (st.spread id found) := by
  unfold spread
  induction found generalizing st with
  | nil => exact .refl
  | cons p rest ih =>
    rw [List.mem_cons, not_or] at hid
    rw [List.nodup_cons] at hnodup
    rw [List.forall_mem_cons] at hopen
    refine .head (.unified hopen.1 hhas htaker) (ih hid.2 ?_ ?_ hnodup.2 fun q hq => ?_)
    · simpa only [HasClass, length_classes_modifyClass] using hhas
    · rwa [cls_modifyClass_of_ne st _ hid.1]
    -- a receiver that is turned later is none that was turned before
    · have hne : q ≠ p := fun e => hnodup.1 (e ▸ hq)
      rw [cls_modifyClass_of_ne st _ hne]
      exact hopen.2 q hq

/-- In a sound store a class can always be closed. -/
theorem closeClass_eq (hst : st.Sound) (outer inner : ScopeId) (name : String)
    (bases : List String) :
    st.closeClass outer inner name bases =
      let (id, opened) := st.addClass (st.classOfBody inner name bases)
      let found := st.receivers (st.scope inner).vars
      .done (((opened.gather id found).spread id found).bindVar outer (some name)
        (.script id)) := by
  set c := st.classOfBody inner name bases with hc
  have hfits : (st.addClass c).2.Fits (st.scope inner).vars :=
    (hst.vars inner).mono (by simp) (by simp)
  -- the class that was just added is not a receiver of its own methods
  have hplaceholders : (st.addClass c).2.placeholders ((st.addClass c).2.cls (st.addClass c).1) =
      some (st.receivers (st.scope inner).vars) := by
    unfold placeholders
    rw [cls_addClass_new, hc]
    show (st.addClass c).2.receiversIn (st.scope inner).vars = _
    rw [receiversIn_eq hfits, receivers_addClass hst]
  set found := st.receivers (st.scope inner).vars
  have hunify : (st.addClass c).2.unify (st.addClass c).1 = some (found,
      ((st.addClass c).2.gather (st.addClass c).1 found).spread (st.addClass c).1 found) := by
    unfold unify
    rw [hplaceholders, Option.map_some]
  unfold closeClass
  dsimp only
  split
  · rename_i hnone
    exact absurd (hnone.symm.trans hunify) (by simp)
  · rename_i listed unified hsome
    have hpair := Option.some.inj (hsome.symm.trans hunify)
    rw [(Prod.mk.inj hpair).2]
    rfl

/-- A class that is added is none of the receivers. -/
theorem ne_of_mem_receivers {table : Bindings} {p : ClassId} (hp : p ∈ st.receivers table)
    (c : ClassInfo) : p ≠ (st.addClass c).1 := by
  obtain ⟨b, -, hb⟩ := mem_receivers_iff.mp hp
  exact fun e => Nat.lt_irrefl _ (e ▸ hb.hasClass)

/-- A class is made from its body and unified with its receivers. -/
theorem writes_unified {inner : ScopeId} (hinner : st.HasScope inner) (name : String)
    (htaker : terms.taker name ⟨st.classes.length⟩) (bases : List String) :
    let opened := st.addClass (st.classOfBody inner name bases)
    let found := st.receivers (st.scope inner).vars
    WritesOn may names terms st ((opened.2.gather opened.1 found).spread opened.1 found) := by
  intro opened found
  set c := st.classOfBody inner name bases with hc
  have hmem : (st.addClass c).1 ∉ found := fun hmem => ne_of_mem_receivers hmem c rfl
  have hclosed : WritesOn may names terms st (st.addClass c).2 :=
    .single (.closed name bases hinner)
  have hgather : WritesOn may names terms (st.addClass c).2
      ((st.addClass c).2.gather (st.addClass c).1 found) := writes_gather _ _ _
  have hspread : WritesOn may names terms ((st.addClass c).2.gather (st.addClass c).1 found)
      (((st.addClass c).2.gather (st.addClass c).1 found).spread (st.addClass c).1 found) := by
    refine writes_spread hmem (by simp [HasClass]) ?_ (nodup_receivers _) fun p hp => ?_
    · rw [cls_gather_self hmem _ (by simp [HasClass]), ClassInfo.name_putAll, cls_addClass_new]
      exact htaker
    -- gathering changes the new class alone, so the receivers are placeholders still
    · have hne : p ≠ (st.addClass c).1 := ne_of_mem_receivers hp c
      obtain ⟨b, -, hb⟩ := mem_receivers_iff.mp hp
      rw [cls_gather_of_ne hne, cls_addClass_of_ne st hne]
      exact hb.isPlaceholder
  exact (hclosed.trans hgather).trans hspread

theorem Keeping.writes_closeClass (h : Keeping ctx may terms st s) {inner : ScopeId}
    (hinner : st.HasScope inner) {name : String} (hname : names (some name))
    (htaker : terms.taker name ⟨st.classes.length⟩) (bases : List String) :
    WritesOn may names terms st (st.closeClass s inner name bases).store := by
  rw [closeClass_eq h.sound]
  have hall : WritesOn may names terms st _ := writes_unified hinner name htaker bases
  refine hall.trans ((h.after hall).writes_bindVar hname ⟨?_, trivial⟩)
  simp [HoldsValue, Holds, HasClass]

/-! ### Statements -/

/-- The store after the parameters and the body of a definition were entered in a scope of their
own. -/
def innerWalk (st : Store) (s : ScopeId) (className : Option String) (params : List Label)
    (body : List Stmt) : Store :=
  walkBody (st.addChild s className).1 body
    (bindParams (st.addChild s className).1 params (st.addChild s className).2)

/-- A function walks its body, and then binds its name if it can be told what it returns. -/
theorem walkStmt_function_eq (s : ScopeId) (name : String) (params : List Label)
    (body : List Stmt) (st : Store) : walkStmt s (.function name (some params) body) st =
      match (st.innerWalk s none params body).returnType (st.addChild s none).1 body with
      | none => .stopped (st.innerWalk s none params body)
      | some returns => .done ((st.innerWalk s none params body).bindVar s (some name)
          (.function ⟨name, returns, params, some (st.addChild s none).1⟩)) := rfl

/-- A class walks its body, and is then closed if its superclasses can be told. -/
theorem walkStmt_classDef_eq (s : ScopeId) (name : String) (bases : List Expr) (body : List Stmt)
    (st : Store) : walkStmt s (.classDef name bases body) st =
      match (st.innerWalk s (some name) [] body).baseNames s bases with
      | none => .stopped (st.innerWalk s (some name) [] body)
      | some bases =>
        (st.innerWalk s (some name) [] body).closeClass s (st.addChild s (some name)).1 name
          bases := rfl

theorem Keeping.writes_innerWalk (h : Keeping ctx may terms st s) (className : Option String)
    (params : List Label) {body : List Stmt} (hparams : ∀ label ∈ params, names label)
    (hbody : Keeping ctx may terms
        (bindParams (st.addChild s className).1 params (st.addChild s className).2)
        (st.addChild s className).1 →
      WritesOn may names terms
        (bindParams (st.addChild s className).1 params (st.addChild s className).2)
        (st.innerWalk s className params body)) :
    WritesOn may names terms st (st.innerWalk s className params body) ∧
      (st.innerWalk s className params body).HasScope (st.addChild s className).1 := by
  have hopen : WritesOn may names terms st (st.addChild s className).2 :=
    .single (.opened className h.here h.has)
  have hinner := h.inner className
  have hbind := hinner.writes_bindParams params hparams
  have hwalk := hbody (hinner.after hbind)
  exact ⟨(hopen.trans hbind).trans hwalk, ((hinner.after hbind).after hwalk).has⟩

/-- A function whose body is walked is defined, if it can be told what it returns. -/
theorem definesFunction_of_returnType {name : String} {params : List Label} {body : List Stmt}
    {returns : Option String} (hs : (st.innerWalk s none params body).HasScope s)
    (h : (st.innerWalk s none params body).returnType (st.addChild s none).1 body = some returns) :
    Visit.DefinesFunction ⟨s, .function name (some params) body, st⟩
      ⟨name, returns, params, some (st.addChild s none).1⟩ := by
  refine ⟨body, rfl, .of_outcome ?_ hs⟩
  rw [Visit.outcome, walkStmt_function_eq, h]

/-- Once the body of a function is walked, its name is bound outside. -/
theorem Keeping.writes_functionEnd {name : String} {params : List Label} {body : List Stmt}
    (h : Keeping ctx may terms (st.innerWalk s none params body) s)
    (hinner : (st.innerWalk s none params body).HasScope (st.addChild s none).1)
    (hname : names (some name))
    (hmeets : Visit.Meets ⟨s, .function name (some params) body, st⟩ terms) :
    WritesOn may names terms (st.innerWalk s none params body)
      (walkStmt s (.function name (some params) body) st).store := by
  cases hreturns : (st.innerWalk s none params body).returnType (st.addChild s none).1 body with
  | none =>
    rw [walkStmt_function_eq, hreturns]
    exact .refl
  | some returns =>
    rw [walkStmt_function_eq, hreturns]
    refine h.writes_bindVar hname ⟨⟨_, rfl, hinner⟩, ?_⟩
    exact hmeets.function _ (definesFunction_of_returnType h.has hreturns)

/-- A function: its scope is opened, its parameters and its body are entered there, and its name is
bound outside. -/
theorem Keeping.writes_function (h : Keeping ctx may terms st s) {name : String}
    {params : List Label} {body : List Stmt} (hname : names (some name))
    (hparams : ∀ label ∈ params, names label)
    (hmeets : Visit.Meets ⟨s, .function name (some params) body, st⟩ terms)
    (hbody : Keeping ctx may terms
        (bindParams (st.addChild s none).1 params (st.addChild s none).2) (st.addChild s none).1 →
      WritesOn may names terms (bindParams (st.addChild s none).1 params (st.addChild s none).2)
        (st.innerWalk s none params body)) :
    WritesOn may names terms st (walkStmt s (.function name (some params) body) st).store := by
  obtain ⟨hwalk, hinner⟩ := h.writes_innerWalk none params hparams hbody
  exact hwalk.trans ((h.after hwalk).writes_functionEnd hinner hname hmeets)

/-- How a class ends, once its body is walked and its superclasses are known. -/
theorem outcome_classDef {name : String} {bases : List Expr} {body : List Stmt}
    {superclasses : List String} (hmid : (st.innerWalk s (some name) [] body).Sound)
    (hbases : (st.innerWalk s (some name) [] body).baseNames s bases = some superclasses) :
    Visit.outcome ⟨s, .classDef name bases body, st⟩ =
      let mid := st.innerWalk s (some name) [] body
      let inner := (st.addChild s (some name)).1
      let (id, closed) := mid.addClass (mid.classOfBody inner name superclasses)
      let found := mid.receivers (mid.scope inner).vars
      .done (((closed.gather id found).spread id found).bindVar s (some name) (.script id)) := by
  rw [Visit.outcome, walkStmt_classDef_eq, hbases]
  exact closeClass_eq hmid ..

/-- Once the body of a class is walked, the class is made and bound outside. -/
theorem Keeping.writes_classEnd {name : String} {bases : List Expr} {body : List Stmt}
    (h : Keeping ctx may terms (st.innerWalk s (some name) [] body) s)
    (hinner : (st.innerWalk s (some name) [] body).HasScope (st.addChild s (some name)).1)
    (hname : names (some name))
    (hmeets : Visit.Meets ⟨s, .classDef name bases body, st⟩ terms) :
    WritesOn may names terms (st.innerWalk s (some name) [] body)
      (walkStmt s (.classDef name bases body) st).store := by
  cases hbases : (st.innerWalk s (some name) [] body).baseNames s bases with
  | none =>
    rw [walkStmt_classDef_eq, hbases]
    exact .refl
  | some superclasses =>
    rw [walkStmt_classDef_eq, hbases]
    refine h.writes_closeClass hinner hname ?_ superclasses
    have hend := outcome_classDef h.sound hbases
    refine hmeets.taker name _ ⟨bases, body, rfl, .of_outcome hend ?_⟩
    simpa only [HasScope, scopes_spread, scopes_gather, scopes_addClass] using h.has

/-- A class: its scope is opened and its body entered there; then it is made and bound outside. -/
theorem Keeping.writes_classDef (h : Keeping ctx may terms st s) {name : String}
    {bases : List Expr} {body : List Stmt} (hname : names (some name))
    (hmeets : Visit.Meets ⟨s, .classDef name bases body, st⟩ terms)
    (hbody : Keeping ctx may terms (st.addChild s (some name)).2 (st.addChild s (some name)).1 →
      WritesOn may names terms (st.addChild s (some name)).2
        (st.innerWalk s (some name) [] body)) :
    WritesOn may names terms st (walkStmt s (.classDef name bases body) st).store := by
  obtain ⟨hwalk, hinner⟩ := h.writes_innerWalk (some name) [] (by simp) hbody
  exact hwalk.trans ((h.after hwalk).writes_classEnd hinner hname hmeets)

/-- The targets of a control statement are bound, each to nothing that is known. -/
theorem Keeping.writes_targets (h : Keeping ctx may terms st s) (targets : List Label)
    (hnames : ∀ label ∈ targets, names label) :
    WritesOn may names terms st
      (targets.foldl (fun st label => st.bindVar s label .unknown) st) := by
  refine Keeping.writes_foldl targets (fun label hlabel st h => ?_) h
  exact h.writes_bindVar (hnames label hlabel) admits_unknown

theorem Keeping.writes_importFromStmt (h : Keeping ctx may terms st s) {source : Option Label}
    {wildcard : Bool} {items : List ImportItem}
    (hnames : ∀ label ∈ (Stmt.importFrom source wildcard items).binds ctx, names label) :
    WritesOn may names terms st (walkStmt s (.importFrom source wildcard items) st).store := by
  match source, wildcard with
  | none, _ => exact .refl
  | some none, _ => exact .refl
  | some (some text), true =>
    refine h.writes_importAll _ fun name hname => ?_
    exact hnames (some name) (List.mem_map_of_mem hname)
  | some (some text), false =>
    refine Keeping.writes_eachInTurn items (fun item hitem st h => h.writes_importFrom _ item ?_) h
    intro label hlabel
    exact hnames label (List.mem_flatMap.mpr ⟨item, hitem, hlabel⟩)

mutual

/-- Walking a statement writes to the scope it stands in and to scopes that it opens, binds only
what the statement and those inside it bind, and keeps to terms that the definitions among them
meet. -/
theorem Keeping.writes_walkStmt (stmt : Stmt) {s : ScopeId} {st : Store}
    (h : Keeping ctx may terms st s)
    (hnames : ∀ x ∈ stmt.order, ∀ label ∈ x.binds ctx, names label)
    (hmeets : ∀ v ∈ visits s stmt st, v.Meets terms) :
    WritesOn may names terms st (walkStmt s stmt st).store := by
  -- on the statement; a definition opens a scope, and its body is walked there
  cases stmt with
  | importNames items =>
    rw [walkStmt]
    refine Keeping.writes_eachInTurn items (fun item hitem st h => h.writes_importName item ?_) h
    intro label hlabel
    exact hnames _ (List.mem_singleton_self _) label (List.mem_flatMap.mpr ⟨item, hitem, hlabel⟩)
  | importFrom source wildcard items =>
    exact h.writes_importFromStmt (hnames _ (List.mem_singleton_self _))
  | assign items =>
    rw [walkStmt]
    refine Keeping.writes_eachInTurn items
      (fun item hitem st h => h.writes_walkAssignment item ?_) h
    intro label hlabel
    exact hnames _ (List.mem_singleton_self _) label (List.mem_flatMap.mpr ⟨item, hitem, hlabel⟩)
  | function name params body =>
    rw [Stmt.order, List.forall_mem_cons] at hnames
    cases params with
    | none =>
      rw [walkStmt]
      exact .single (.opened none h.here h.has)
    | some params =>
      rw [visits, List.forall_mem_cons] at hmeets
      refine h.writes_function (hnames.1 _ (List.mem_cons_self ..))
        (fun label hlabel => hnames.1 label (List.mem_cons_of_mem _ hlabel)) hmeets.1 ?_
      exact fun h => Keeping.writes_walkBody body h hnames.2 hmeets.2
  | classDef name bases body =>
    rw [Stmt.order, List.forall_mem_cons] at hnames
    rw [visits, List.forall_mem_cons] at hmeets
    refine h.writes_classDef (hnames.1 _ (List.mem_singleton_self _)) hmeets.1 ?_
    exact fun h => Keeping.writes_walkBody body h hnames.2 hmeets.2
  | decorated definition =>
    rw [walkStmt]
    rw [visits, List.forall_mem_cons] at hmeets
    exact Keeping.writes_walkStmt definition h (fun x hx => hnames x (List.mem_cons_of_mem _ hx))
      hmeets.2
  | control parts =>
    rw [walkStmt]
    rw [Stmt.order, List.forall_mem_cons] at hnames
    rw [visits, List.forall_mem_cons] at hmeets
    exact Keeping.writes_walkControl parts h hnames.1 hnames.2 hmeets.2
  | ret value => exact .refl
  | other => exact .refl
  | fault => exact .refl

theorem Keeping.writes_walkBody (body : List Stmt) {s : ScopeId} {st : Store}
    (h : Keeping ctx may terms st s)
    (hnames : ∀ x ∈ Stmt.orderIn body, ∀ label ∈ x.binds ctx, names label)
    (hmeets : ∀ v ∈ visitsIn s body st, v.Meets terms) :
    WritesOn may names terms st (walkBody s body st) := by
  match body with
  | [] => exact .refl
  | stmt :: rest =>
    rw [Stmt.orderIn, List.forall_mem_append] at hnames
    rw [visitsIn, List.forall_mem_append] at hmeets
    have hfirst := Keeping.writes_walkStmt stmt h hnames.1 hmeets.1
    exact hfirst.trans (Keeping.writes_walkBody rest (h.after hfirst) hnames.2 hmeets.2)

theorem Keeping.writes_walkControl (parts : Control) {s : ScopeId} {st : Store}
    (h : Keeping ctx may terms st s) (htargets : ∀ label ∈ parts.targets, names label)
    (hnames : ∀ x ∈ parts.order, ∀ label ∈ x.binds ctx, names label)
    (hmeets : ∀ v ∈ visitsControl s parts st, v.Meets terms) :
    WritesOn may names terms st (walkControl s parts st).store := by
  match parts with
  | .mk none _ => exact .refl
  | .mk (some targets) parts =>
    rw [Control.targets, List.forall_mem_append] at htargets
    rw [walkControl]
    have hbind := h.writes_targets targets htargets.1
    exact hbind.trans
      (Keeping.writes_walkParts parts (h.after hbind) htargets.2 hnames hmeets)

theorem Keeping.writes_walkParts (parts : List Part) {s : ScopeId} {st : Store}
    (h : Keeping ctx may terms st s) (htargets : ∀ label ∈ Part.targetsIn parts, names label)
    (hnames : ∀ x ∈ Part.orderIn parts, ∀ label ∈ x.binds ctx, names label)
    (hmeets : ∀ v ∈ visitsParts s parts st, v.Meets terms) :
    WritesOn may names terms st (walkParts s parts st).store := by
  match parts with
  | [] => exact .refl
  | .block body :: rest =>
    rw [Part.orderIn, List.forall_mem_append] at hnames
    rw [visitsParts, List.forall_mem_append] at hmeets
    rw [walkParts]
    have hfirst := Keeping.writes_walkBody body h hnames.1 hmeets.1
    exact hfirst.trans
      (Keeping.writes_walkParts rest (h.after hfirst) htargets hnames.2 hmeets.2)
  | .clause inner :: rest =>
    rw [Part.orderIn, List.forall_mem_append] at hnames
    rw [Part.targetsIn, List.forall_mem_append] at htargets
    rw [visitsParts, List.forall_mem_append] at hmeets
    rw [walkParts]
    refine h.writes_andThen
      (Keeping.writes_walkControl inner h htargets.1 hnames.1 hmeets.1) fun hend hnext => ?_
    refine Keeping.writes_walkParts rest hnext htargets.2 hnames.2 fun v hv => ?_
    exact hmeets.2 v (by rwa [ite_cond_eq_true _ _ (eq_true hend)])

end

/-! ### Walking on no terms -/

theorem Standing.writes_walkStmt (h : Standing ctx may st s) {stmt : Stmt}
    (hnames : ∀ x ∈ stmt.order, ∀ label ∈ x.binds ctx, names label) :
    Writes may names st (walkStmt s stmt st).store :=
  Keeping.writes_walkStmt stmt h.free hnames fun v _ => v.meets_free

theorem Standing.writes_walkBody (h : Standing ctx may st s) {body : List Stmt}
    (hnames : ∀ x ∈ Stmt.orderIn body, ∀ label ∈ x.binds ctx, names label) :
    Writes may names st (walkBody s body st) :=
  Keeping.writes_walkBody body h.free hnames fun v _ => v.meets_free

theorem Standing.writes_walkControl (h : Standing ctx may st s) {parts : Control}
    (htargets : ∀ label ∈ parts.targets, names label)
    (hnames : ∀ x ∈ parts.order, ∀ label ∈ x.binds ctx, names label) :
    Writes may names st (walkControl s parts st).store :=
  Keeping.writes_walkControl parts h.free htargets hnames fun v _ => v.meets_free

theorem Standing.writes_walkParts (h : Standing ctx may st s) {parts : List Part}
    (htargets : ∀ label ∈ Part.targetsIn parts, names label)
    (hnames : ∀ x ∈ Part.orderIn parts, ∀ label ∈ x.binds ctx, names label) :
    Writes may names st (walkParts s parts st).store :=
  Keeping.writes_walkParts parts h.free htargets hnames fun v _ => v.meets_free

end ScriptScope.Store
