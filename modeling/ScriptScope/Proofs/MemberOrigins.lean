import ScriptScope.Proofs.ClassAttributes
import ScriptScope.Proofs.WellFormed

/-!
# Where the members of a class come from

A class comes by its members in three ways: a statement registers them by assigning to them, the
builtin symbols list them for a class that is made up, or the body of the class binds them to a
function or a class.  `Origin` says that a member has come in one of these ways.

A body is not written to after its class is closed, so the third way can be read off the scopes in
the end.  Unifying a class with its receivers passes members on; a receiver belongs to a function,
so that none of its members is one of a body.  Every single thing that a walk does therefore leaves
every member with an origin (`Traced.upholds`), and so does the walk: `Analysis.traced`.
-/

namespace ScriptScope

namespace Store

/-- A class body binds the label to a function or a class. -/
def BodyDefines (st : Store) (t : ScopeId) (label : Label) : Prop :=
  (st.scope t).className ≠ none ∧
    ∃ d, (st.scope t).vars.get? label = some d ∧ d.isMember = true

/-- A way in which a class comes by a member, if the statements are walked and lead to the store. -/
inductive Origin (ctx : Context) (stmts : List Stmt) (final : Store) (c : ClassInfo)
    (member : Label) : Prop
  | registered {stmt : Stmt} (walked : stmt ∈ stmts) (names : member ∈ stmt.registered)
  | listed {name : String} (lists : member ∈ (ctx.listedMembers name).map some)
  | defined {t : ScopeId} (scope : c.scope = some t) (defines : final.BodyDefines t member)

/-- Every member of a class of the store has an origin. -/
def Traced (ctx : Context) (stmts : List Stmt) (final st : Store) : Prop :=
  ∀ id, ∀ m ∈ (st.cls id).members, Origin ctx stmts final (st.cls id) m

/-- A class that is made up has no members but those that the builtin symbols list. -/
def ListedValue (ctx : Context) : Value → Prop
  | .made info => ∀ m ∈ info.members, ∃ name, m ∈ (ctx.listedMembers name).map some
  | .held _ => True

/-- The scope of the class body that a visit walks is in the end as the body left it. -/
def KeepsBody (final : Store) (v : Visit) : Prop :=
  ∀ name bases body, v.stmt = .classDef name bases body →
    final.scope (v.before.addChild v.scope (some name)).1 =
      (v.before.innerWalk v.scope (some name) [] body).scope
        (v.before.addChild v.scope (some name)).1

/-- No function that the store binds has a class body as its scope. -/
def FunctionScopes (st : Store) : Prop :=
  st.Functions fun fn => ∀ s, fn.scope = some s → (st.scope s).className = none

variable {ctx : Context} {stmts : List Stmt} {final st : Store} {s : ScopeId}

/-! ### Single steps -/

theorem Origin.of_scope_eq {c c' : ClassInfo} {m : Label} (h : Origin ctx stmts final c m)
    (hscope : c'.scope = c.scope) : Origin ctx stmts final c' m := by
  cases h with
  | registered walked names => exact .registered walked names
  | listed lists => exact .listed lists
  | defined scope defines => exact .defined (hscope.trans scope) defines

/-- A class that does not define anything in a body passes its members on. -/
theorem Origin.of_receiver {c c' : ClassInfo} {m : Label} (h : Origin ctx stmts final c m)
    (hfree : ∀ t, c.scope = some t → (final.scope t).className = none) :
    Origin ctx stmts final c' m := by
  cases h with
  | registered walked names => exact .registered walked names
  | listed lists => exact .listed lists
  | defined scope defines => exact absurd (hfree _ scope) defines.1

/-- What a class body lists is bound to a function or a class. -/
theorem exists_of_mem_ownMembers {table : Bindings} (hnodup : table.names.Nodup) {label : Label}
    (h : label ∈ ownMembers table) : ∃ d, table.get? label = some d ∧ d.isMember = true := by
  unfold ownMembers at h
  obtain ⟨⟨name, d⟩, hmem, rfl⟩ := List.mem_map.mp h
  obtain ⟨hmem, hmember⟩ := List.mem_filter.mp hmem
  refine ⟨d, ?_, ?_⟩
  · have hfind := find?_key_of_mem Prod.fst hnodup hmem
    simp only [beq_eq_decide] at hfind
    simp only [Bindings.get?, beq_eq_decide, hfind, Option.map_some]
  · cases d with
    | function fn => rfl
    | script id => rfl
    | unknown => simp at hmember
    | instanceOf typeName scope => simp at hmember
    | static name => simp at hmember

theorem Traced.addClass (h : Traced ctx stmts final st) {info : ClassInfo}
    (hinfo : ∀ m ∈ info.members, Origin ctx stmts final info m) :
    Traced ctx stmts final (st.addClass info).2 := by
  intro id m hm
  by_cases hnew : id = (st.addClass info).1
  · rw [hnew, cls_addClass_new] at hm ⊢
    exact hinfo m hm
  · rw [cls_addClass_of_ne st hnew] at hm ⊢
    exact h id m hm

theorem Traced.put (h : Traced ctx stmts final st) (id : ClassId) {member : Label}
    (hmember : ∀ c, Origin ctx stmts final c member) :
    Traced ctx stmts final (st.modifyClass id (·.put member)) := by
  intro other m hm
  by_cases hsame : other = id
  · subst hsame
    by_cases hhas : st.HasClass other
    · rw [cls_modifyClass_self st _ hhas] at hm ⊢
      have hscope : ((st.cls other).put member).scope = (st.cls other).scope :=
        ClassInfo.scope_putAll (st.cls other) [member]
      rw [ClassInfo.members_put, mem_addNew, List.mem_singleton] at hm
      rcases hm with hm | rfl
      · exact (h other m hm).of_scope_eq hscope
      · exact hmember _
    -- a number without a class has no members
    · have hstill : ¬ (st.modifyClass other (·.put member)).HasClass other := by
        unfold HasClass
        rwa [length_classes_modifyClass]
      rw [cls_of_not_hasClass hstill] at hm
      simp [default] at hm
  · rw [cls_modifyClass_of_ne st _ hsame] at hm ⊢
    exact h other m hm

/-- A class that is closed has come by what its body defines and by what its receivers had. -/
theorem Traced.closed (hfinal : final.FunctionScopes) {name : String} {bases : List Expr}
    {body : List Stmt} (hs : Stands ctx st s)
    (hkeeps : final.KeepsBody ⟨s, .classDef name bases body, st⟩)
    (hmid : Traced ctx stmts final (st.innerWalk s (some name) [] body))
    (superclasses : List String) :
    let mid := st.innerWalk s (some name) [] body
    let inner := (st.addChild s (some name)).1
    let opened := mid.addClass (mid.classOfBody inner name superclasses)
    let found := mid.receivers (mid.scope inner).vars
    Traced ctx stmts final ((opened.2.gather opened.1 found).spread opened.1 found) := by
  intro mid inner opened found
  have hsound : mid.Sound := (hs.after_innerWalk (some name) [] body).sound
  have hbody : final.scope inner = mid.scope inner := hkeeps name bases body rfl
  have hold : ∀ p ∈ found, mid.HasClass p := by
    intro p hp
    obtain ⟨b, -, hb⟩ := mem_receivers_iff.mp hp
    exact hb.hasClass
  obtain ⟨hunified, members, hclass⟩ := unified_spread_gather
    (mid.classOfBody inner name superclasses) (nodup_ownMembers (hsound.vars inner).nodup)
    (nodup_receivers _) hold
  set after := (opened.2.gather opened.1 found).spread opened.1 found
  have hown : ∀ m ∈ (mid.classOfBody inner name superclasses).members,
      final.BodyDefines inner m := by
    intro m hm
    obtain ⟨d, hd, hmember⟩ := exists_of_mem_ownMembers (hsound.vars inner).nodup hm
    refine ⟨?_, d, by rwa [hbody], hmember⟩
    rw [hbody, className_innerWalk hs.sound hs.has]
    simp
  -- the scope of a receiver is that of a method, which is no class body
  have hreceiver : ∀ p ∈ found, ∀ t, (mid.cls p).scope = some t →
      (final.scope t).className = none := by
    intro p hp t ht
    obtain ⟨b, hb, fn, first, rest, u, hfn, -, hscope, -, -, hp⟩ := mem_receivers_iff.mp hp
    rw [Option.some.inj (ht.symm.trans hp)]
    refine hfinal inner b (List.mem_append_left _ ?_) fn hfn u hscope
    rwa [hbody]
  have hnew : ∀ m ∈ (after.cls opened.1).members, Origin ctx stmts final (after.cls opened.1) m := by
    intro m hm
    rw [hunified.members, ← nil_addNew, mem_addNew, List.mem_append, List.mem_flatMap] at hm
    rcases hm with hm | hm | ⟨p, hp, hm⟩
    · simp at hm
    · exact .defined (by rw [hclass]; rfl) (hown m hm)
    · exact (hmid p m hm).of_receiver (hreceiver p hp)
  intro id m hm
  by_cases hid : id = opened.1
  · rw [hid] at hm ⊢
    exact hnew m hm
  · by_cases hfound : id ∈ found
    · have hscope : (after.cls id).scope = (after.cls opened.1).scope := by
        rw [hunified.receiver id hfound]
      exact (hnew m ((hunified.mem_members_iff hfound m).mp hm)).of_scope_eq hscope
    · rw [hunified.elsewhere id hid hfound] at hm ⊢
      exact hmid id m hm

/-! ### Walks -/

/-- A class that is made up where a walk stands is listed by the builtin symbols. -/
theorem listedValue_of_builtin? {name : String} {info : ClassInfo}
    (hcontext : (st.scope s).context = ctx) (hinfo : st.builtin? s name = some info) :
    ListedValue ctx (.made info) := by
  unfold builtin? builtinMembers at hinfo
  rw [hcontext] at hinfo
  simp only [Option.ite_none_left_eq_some, Option.some.injEq] at hinfo
  rw [← hinfo.2]
  exact fun m hm => ⟨name, hm⟩

theorem sources_listedValue (hcontext : (st.scope s).context = ctx) :
    st.Sources s (ListedValue ctx) where
  unknown := trivial
  host _ := trivial
  imported _ := trivial
  bound _ _ _ := trivial
  builtin hinfo := listedValue_of_builtin? hcontext hinfo
  result _ _ := trivial

/-- Every single thing that a walk does leaves every member with an origin. -/
theorem Traced.upholds (ctx : Context) (stmts : List Stmt) (hfinal : final.FunctionScopes) :
    Upholds ctx (fun v => v.stmt ∈ stmts ∧ final.KeepsBody v) (Traced ctx stmts final)
      (fun _ v => ListedValue ctx v) where
  inferred hs _ hv := (sources_listedValue hs.context).forall_infer hv
  unknown := trivial
  stored _ := trivial
  lasts _ hv _ := hv
  var _ h _ _ := h
  imported _ h := h
  registered hP _ _ _ hmember h := h.put _ fun _ => .registered hP.1 hmember
  opened _ _ _ h := h
  made _ h hinfo _ := by
    refine h.addClass fun m hm => ?_
    obtain ⟨name, hlisted⟩ := hinfo m hm
    exact .listed hlisted
  parameter _ _ _ := by simp [ListedValue, ClassInfo.placeholder]
  function _ _ _ _ := trivial
  closed hP hs h _ := h.closed hfinal hs hP.2 _

end Store

namespace Analysis

open Store

theorem functions_empty (ctx : Context) (P : Function → Prop) : (empty ctx).store.Functions P := by
  intro t b hb
  rcases scope_empty ctx t with e | e <;> simp [e] at hb

/-- A function is bound once its body is walked, and its scope is no class body. -/
theorem className_of_definesFunction {ctx : Context} {v : Visit} {fn : Function} {st final : Store}
    {terms : Terms} (hs : Stands ctx v.before v.scope) (h : v.DefinesFunction fn)
    (hpass : Passes terms v st final) {s : ScopeId} (hscope : fn.scope = some s) :
    (final.scope s).className = none := by
  obtain ⟨t, stmt, before⟩ := v
  obtain ⟨body, hstmt, hend, -⟩ := id h
  dsimp only at hs hstmt
  subst hstmt
  have hmid := hs.after_innerWalk none fn.params body
  have hinner := hs.hasScope_innerWalk none fn.params body
  cases hreturns : (before.innerWalk t none fn.params body).returnType
      (before.addChild t none).1 body with
  | none =>
    rw [Visit.outcome, walkStmt_function_eq, hreturns] at hend
    simp [Outcome.stopped] at hend
  | some returns =>
    have hfn := h.unique (definesFunction_of_returnType hmid.has hreturns)
    rw [hfn] at hscope
    have hout : (Visit.outcome ⟨t, .function fn.name (some fn.params) body, before⟩).store =
        (before.innerWalk t none fn.params body).bindVar t (some fn.name)
          (.function ⟨fn.name, returns, fn.params, some (before.addChild t none).1⟩) := by
      rw [Visit.outcome, walkStmt_function_eq, hreturns]
      rfl
    have hhas : (Visit.outcome ⟨t, .function fn.name (some fn.params) body, before⟩).store.HasScope
        (before.addChild t none).1 := by
      rw [hout, HasScope, length_scopes_bindVar]
      exact hinner
    rw [← Option.some.inj hscope, hpass.after.writes.change.className _ hhas, hout,
      className_bindVar, className_innerWalk hs.sound hs.has]

/-- A class body is left alone after its class is closed. -/
theorem keepsBody_of_passes {ctx : Context} {v : Visit} {st final : Store} {terms : Terms}
    (hs : Stands ctx v.before v.scope) (hpass : Passes terms v st final) : final.KeepsBody v := by
  obtain ⟨t, stmt, before⟩ := v
  intro name bases body hstmt
  dsimp only at hs hstmt ⊢
  subst hstmt
  have hmid := hs.after_innerWalk (some name) [] body
  have hinner := hs.hasScope_innerWalk (some name) [] body
  have hne : (before.addChild t (some name)).1 ≠ t := by
    intro e
    have hhas : before.HasScope (before.addChild t (some name)).1 := by
      rw [e]
      exact hs.has
    exact Nat.lt_irrefl _ hhas
  obtain ⟨locals, hfills⟩ : ∃ locals, Fills t locals (before.innerWalk t (some name) [] body)
      (Visit.outcome ⟨t, .classDef name bases body, before⟩).store := by
    rw [Visit.outcome, walkStmt_classDef_eq]
    split
    · exact ⟨[], .refl _ _⟩
    · exact ⟨_, (enters_closeClass hmid.sound hmid.has _ _ _).toFills⟩
  have hinside : ¬ Visit.Outside ⟨t, .classDef name bases body, before⟩
      (before.addChild t (some name)).1 := by
    rintro (hlt | hle)
    · exact Nat.lt_irrefl _ hlt
    · exact Nat.not_lt.mpr hle (hfills.hasScope hinner)
  rw [hpass.after.writes.change.elsewhere _ (hfills.hasScope hinner) hinside,
    hfills.elsewhere _ hne]

/-- **Every member of a class has an origin.**  Whatever the statements of a script are, each member
of each class was registered by one of them, is listed by the builtin symbols, or is bound to a
function or a class in the body of the class. -/
theorem traced (ctx : Context) (body : List Stmt) :
    Traced ctx (Stmt.orderIn body) (ofStatements ctx body).store (ofStatements ctx body).store := by
  set root := (empty ctx).root
  set final := walkBody root body (empty ctx).store
  -- no function is bound but those that the statements define
  let terms : Terms :=
    ⟨fun fn => ∃ v ∈ visitsIn root body (empty ctx).store, v.DefinesFunction fn, fun _ _ => True⟩
  have hstand : Stands ctx (empty ctx).store root := standing_empty ctx fun _ => trivial
  have hstart : Keeping ctx (fun _ => True) terms (empty ctx).store root :=
    ⟨hstand, functions_empty ctx _⟩
  have hmeets : ∀ v ∈ visitsIn root body (empty ctx).store, v.Meets terms :=
    fun v hv => ⟨fun fn h => ⟨v, hv, h⟩, fun _ _ _ => trivial⟩
  have hpasses := Keeping.passes_visitsIn body hstart hmeets
  have hstands := Standing.of_mem_visitsIn body hstand
  have hwrites : WritesOn (fun _ => True) (fun _ => True) terms (empty ctx).store final :=
    Keeping.writes_walkBody body hstart (fun _ _ _ _ => trivial) hmeets
  have hfinal : final.FunctionScopes := by
    intro t b hb fn hfn s hscope
    obtain ⟨v, hv, hdefines⟩ := hwrites.functions hstart.functions t b hb fn hfn
    exact className_of_definesFunction (hstands v hv) hdefines (hpasses v hv) hscope
  refine (Traced.upholds ctx (Stmt.orderIn body) hfinal).walkBody body hstand ?_ fun v hv => ?_
  · intro id m hm
    simp [empty, addRoot, cls, default] at hm
  · exact ⟨stmt_mem_orderIn body v hv, keepsBody_of_passes (hstands v hv) (hpasses v hv)⟩

end Analysis

end ScriptScope
