import ScriptScope.Proofs.Attributes
import ScriptScope.Proofs.Unification

/-!
# What a class gets from its methods

A class gets the attributes that its methods assign through their receivers when it ends, from those
methods that its body still binds and that still have their receivers.  So a method loses its
attributes if another definition takes its name and no other name is left for it, or if a class
inside the body takes its receiver; and these are the only ways
(`walkStmt_classDef_attributes`).
-/

namespace ScriptScope.Store

variable {ctx : Context} {may : ScopeId → Prop} {terms : Terms} {st mid : Store} {s : ScopeId}
  {p : Label} {ps : List Label}

/-! ### Receivers of functions -/

/-- The first parameter of a function is bound to a placeholder of its own, unless it comes up
again among the others. -/
theorem Standing.exists_receiver (h : Standing ctx may st s) (hp : p ∉ ps) :
    ∃ r, ((bindParams s (p :: ps) st).scope s).vars.get? p = some (.script r) ∧
      (ClassInfo.placeholder s).SameIdentity ((bindParams s (p :: ps) st).cls r) := by
  set first := st.assign s p (.made (.placeholder s)) with hfirst
  set r := (st.addClass (.placeholder s)).1 with hr
  have hassign : Writes may (fun _ => True) st first := by
    refine h.free.writes_assign trivial ⟨?_, ClassInfo.named_placeholder s⟩
    rintro t ⟨⟩
    exact h.has
  have hbound : (first.scope s).vars.get? p = some (.script r) := by
    have hhas : (st.addClass (.placeholder s)).2.HasScope s := h.has
    show (((st.addClass (.placeholder s)).2.bindVar s p (.script r)).scope s).vars.get? p = _
    rw [vars_bindVar_self _ p _ hhas, Bindings.get?_bind, ite_cond_eq_true _ _ (eq_self p)]
  have hplaceholder : first.cls r = .placeholder s := cls_addClass_new st _
  -- the other parameters are bound on terms that let no class take a receiver
  have hkeep : Keeping ctx may ⟨fun _ => True, fun _ _ => False⟩ first s :=
    ⟨h.after hassign, fun _ _ _ _ _ => trivial⟩
  have hothers : WritesOn may (· ∈ ps) ⟨fun _ => True, fun _ _ => False⟩ first
      (bindParams s (p :: ps) st) := hkeep.writes_bindParams ps fun _ => id
  refine ⟨r, (hothers.writes.change.vars s p hp).trans hbound, ?_⟩
  rw [← hplaceholder]
  rcases hothers.same_or_taken ((h.after hassign).hasClass_of_get? hbound) with hsame | ⟨-, d, hno⟩
  · exact hsame
  · exact absurd hno id

/-- What a walk leaves of a function that it passes: the first parameter is bound to the receiver
as long as nothing in the function binds it, the receiver has the attributes that the function
assigns, and it is the function's placeholder still unless a class has taken it. -/
theorem Passes.exists_method {name : String} {body : List Stmt} {before : Store}
    (h : Passes terms ⟨s, .function name (some (p :: ps)) body, before⟩ st mid)
    (hs : Keeping ctx (fun _ => True) terms before s) (hread : Stmt.allReadable body = true)
    (hp : p ∉ ps) (hno : p ∉ Stmt.localsIn body) :
    ∃ fn r t, Visit.DefinesFunction ⟨s, .function name (some (p :: ps)) body, before⟩ fn ∧
      fn.params = p :: ps ∧ fn.scope = some t ∧
      (mid.scope t).vars.get? p = some (.script r) ∧
      mid.Registered r (Stmt.attributesIn p body) ∧
      ((ClassInfo.placeholder t).SameIdentity (mid.cls r) ∨
        ∃ d, terms.taker (mid.cls r).name d) := by
  have hmeets := h.meets
  rw [visits, List.forall_mem_cons] at hmeets
  set inner := (before.addChild s none).1 with hinner
  set bound := bindParams inner (p :: ps) (before.addChild s none).2 with hbound
  set walked := before.innerWalk s none (p :: ps) body with hwalked
  have hkeep : Keeping ctx (fun _ => True) terms bound inner :=
    (hs.inner none).after ((hs.inner none).writes_bindParams (p :: ps) fun _ _ => trivial)
  obtain ⟨r, hget, hreceiver⟩ := (hs.inner none).toStanding.exists_receiver hp
  have hhas : bound.HasClass r := hkeep.hasClass_of_get? hget
  -- the body is walked, the function is bound, and the walk goes on
  have hbody : WritesOn (fun _ => True) (fun _ => True) terms bound walked :=
    Keeping.writes_walkBody body hkeep (fun _ _ _ _ => trivial) hmeets.2
  obtain ⟨hwalk, hscope⟩ := hs.writes_innerWalk none (p :: ps) (fun _ _ => trivial) fun _ => hbody
  have hend : WritesOn (fun _ => True) (fun _ => True) terms walked
      (walkStmt s (.function name (some (p :: ps)) body) before).store :=
    (hs.after hwalk).writes_functionEnd hscope trivial hmeets.1
  have hrest := hend.trans h.after.anywhere
  obtain ⟨returns, hout⟩ := exists_walkStmt_function s name (p :: ps) hread before
  have hlast : (mid.scope inner).vars.get? p = some (.script r) := by
    have hne : inner ≠ s := fun e => Nat.lt_irrefl _ (e ▸ hs.has : before.HasScope inner)
    have houtside : ¬ Visit.Outside ⟨s, .function name (some (p :: ps)) body, before⟩ inner := by
      rintro (hlt | hle)
      · exact Nat.lt_irrefl _ hlt
      · exact Nat.not_lt.mpr hle (hend.writes.change.hasScope hscope)
    rw [h.after.writes.change.elsewhere inner (hend.writes.change.hasScope hscope) houtside,
      Visit.outcome, hout]
    show ((walked.bindVar s (some name) _).scope inner).vars.get? p = _
    rw [scope_bindVar_of_ne walked _ _ hne]
    exact (Standing.get?_walkBody body hkeep.toStanding hno).trans hget
  refine ⟨⟨name, returns, p :: ps, some inner⟩, r, inner,
    ⟨body, rfl, .of_outcome hout (hs.after hwalk).has⟩, rfl, rfl, hlast, ?_, ?_⟩
  · have hregistered := Standing.registered_walkBody body hkeep.toStanding hread hget hno
    exact hregistered.mono (Nat.lt_of_lt_of_le hhas hbody.writes.change.classes_le) hrest
  · have hall : WritesOn (fun _ => True) (fun _ => True) terms bound mid := hbody.trans hrest
    rcases hall.same_or_taken hhas with hsame | ⟨-, htaken⟩
    · exact .inl (hreceiver.trans hsame)
    · exact .inr htaken

/-! ### The end of a class -/

/-- A class that ends has the members of its receivers. -/
theorem Standing.exists_class {name : String} {bases : List Expr} {body : List Stmt}
    (h : Standing ctx (fun _ => True) st s)
    (hread : (Stmt.classDef name bases body).readable = true) :
    let mid := st.innerWalk s (some name) [] body
    let out := walkStmt s (.classDef name bases body) st
    ∃ c, out.completed = true ∧ (out.store.scope s).vars.get? (some name) = some (.script c) ∧
      ∀ r ∈ mid.receivers (mid.scope (st.addChild s (some name)).1).vars,
        ∀ m ∈ (mid.cls r).members, m ∈ (out.store.cls c).members := by
  intro mid out
  have hmid : Standing ctx (fun _ => True) mid s := h.after_innerWalk (some name) [] body
  rw [Stmt.readable, Bool.and_eq_true] at hread
  obtain ⟨superclasses, hbases⟩ := exists_baseNames mid s hread.1
  obtain ⟨c, members, -, hcompleted, hscopes, -, hunified⟩ :=
    exists_unified_classEnd hmid.sound hbases
  refine ⟨c, hcompleted, ?_, fun r hr m hm => hunified.mem_members hr hm⟩
  rw [scope_of_scopes_eq hscopes, vars_bindVar_self mid _ _ hmid.has, Bindings.get?_bind,
    ite_cond_eq_true _ _ (eq_self _)]

/-- **What a class gets from the functions in its body.**  Take any function that stands in the body
of a readable class, as such, decorated or in a control block, and whose first parameter is bound to
nothing else in it.  Every attribute that it assigns through this parameter is registered with its
receiver, and is a member of the class that is bound in the end, with two exceptions: when the body
ends it binds the function to no name, or the receiver was taken by a class that the body
defines. -/
theorem walkStmt_classDef_attributes (hst : st.Sound) (hs : st.HasScope s) {name : String}
    {bases : List Expr} {body : List Stmt}
    (hread : (Stmt.classDef name bases body).readable = true) :
    let inner := (st.addChild s (some name)).1
    let opened := (st.addChild s (some name)).2
    let mid := walkBody inner body opened
    let out := walkStmt s (.classDef name bases body) st
    ∃ c, out.completed = true ∧ (out.store.scope s).vars.get? (some name) = some (.script c) ∧
      ∀ v ∈ visitsIn inner body opened, v.scope = inner →
      ∀ f p ps code, v.stmt = .function f (some (p :: ps)) code →
        p ∉ ps → p ∉ Stmt.localsIn code →
        ∃ fn r t, v.DefinesFunction fn ∧ fn.scope = some t ∧
          (mid.scope t).vars.get? p = some (.script r) ∧
          mid.Registered r (Stmt.attributesIn p code) ∧
          (out.store.Registered c (Stmt.attributesIn p code) ∨
            (∀ b ∈ (mid.scope inner).vars, b.2 ≠ .function fn) ∨
            ¬ mid.IsReceiver (.function fn) r ∧
              ∃ w ∈ visitsIn inner body opened, ∃ d, w.DefinesClass (mid.cls r).name d) := by
  intro inner opened mid out
  have hstand : Standing (st.scope s).context (fun _ => True) st s :=
    ⟨hst, hs, rfl, trivial, fun _ _ => trivial⟩
  -- the classes that may take receivers are those that the body defines
  let terms : Terms :=
    ⟨fun _ => True, fun name d => ∃ w ∈ visitsIn inner body opened, w.DefinesClass name d⟩
  have hkeep : Keeping (st.scope s).context (fun _ => True) terms opened inner :=
    ⟨hstand.inner (some name), fun _ _ _ _ _ => trivial⟩
  have hmeets : ∀ v ∈ visitsIn inner body opened, v.Meets terms :=
    fun v hv => ⟨fun _ _ => trivial, fun name d hd => ⟨v, hv, hd⟩⟩
  obtain ⟨c, hcompleted, hclass, hgathered⟩ := hstand.exists_class hread
  rw [Stmt.readable, Bool.and_eq_true] at hread
  refine ⟨c, hcompleted, hclass, ?_⟩
  rintro ⟨scope, stmt, before⟩ hv hscope f p ps code hstmt hp hno
  obtain rfl : scope = inner := hscope
  obtain rfl : stmt = .function f (some (p :: ps)) code := hstmt
  have hcode := Stmt.readable_of_mem_orderIn body hread.2 _ (stmt_mem_orderIn body _ hv)
  rw [Stmt.readable, Bool.and_eq_true] at hcode
  have hpasses := Keeping.passes_visitsIn body hkeep hmeets _ hv
  obtain ⟨fn, r, t, hdefines, hparams, ht, hget, hregistered, hreceiver⟩ :=
    hpasses.exists_method (hkeep.after hpasses.before) hcode.2 hp hno
  refine ⟨fn, r, t, hdefines, ht, hget, hregistered, ?_⟩
  by_cases hbound : ∃ b ∈ (mid.scope inner).vars, b.2 = .function fn
  · by_cases hopen : mid.IsReceiver (.function fn) r
    · obtain ⟨b, hb, hfn⟩ := hbound
      have hfound : r ∈ mid.receivers (mid.scope inner).vars :=
        mem_receivers_iff.mpr ⟨b, hb, by rwa [hfn]⟩
      exact .inl fun a ha => hgathered r hfound _ (hregistered a ha)
    · rcases hreceiver with hsame | ⟨d, w, hw, hd⟩
      · have hplaceholder : (mid.cls r).isPlaceholder = true := hsame.isPlaceholder
        exact absurd ⟨fn, p, ps, t, rfl, hparams, ht, hget, hplaceholder, hsame.scope⟩ hopen
      · exact .inr (.inr ⟨hopen, w, hw, d, hd⟩)
  · exact .inr (.inl fun b hb e => hbound ⟨b, hb, e⟩)

/-- What the getter of `propertyClass` does: `self.cached = 1`. -/
def getterCode : List Stmt :=
  [.assign [.mk [.member (some "self") [some "cached"]] (some .integer)]]

/-- What its setter does: `self.stored = value`. -/
def setterCode : List Stmt :=
  [.assign [.mk [.member (some "self") [some "stored"]] (some (.name (some "value")))]]

/-- The getter and the setter of a property, which bear the same name. -/
def accessors : List Stmt :=
  [ .decorated (.function "x" (some [some "self"]) getterCode),
    .decorated (.function "x" (some [some "self", some "value"]) setterCode) ]

/-- The class has what the setter assigns, which is the last to bear its name. -/
theorem walkStmt_accessors_attributes :
    let st := (Analysis.empty {}).store
    let opened := (st.addChild ⟨0⟩ (some "C")).2
    let setter : Visit := ⟨⟨1⟩, .function "x" (some [some "self", some "value"]) setterCode,
      (walkStmt ⟨1⟩ (.decorated (.function "x" (some [some "self"]) getterCode)) opened).store⟩
    let out := walkStmt ⟨0⟩ (.classDef "C" [] accessors) st
    st.Sound ∧ st.HasScope ⟨0⟩ ∧ (Stmt.classDef "C" [] accessors).readable = true ∧
    setter ∈ visitsIn ⟨1⟩ accessors opened ∧
    ∃ c fn, (out.store.scope ⟨0⟩).vars.get? (some "C") = some (.script c) ∧
      setter.DefinesFunction fn ∧ out.store.Registered c ["stored"] := by
  intro st opened setter out
  have hsound : st.Sound := Analysis.sound_empty {}
  have hhas : st.HasScope ⟨0⟩ := by decide
  have hread : (Stmt.classDef "C" [] accessors).readable = true := by decide
  have hvisit : setter ∈ visitsIn ⟨1⟩ accessors opened := by
    simp [accessors, visitsIn, visits, setter]
  refine ⟨hsound, hhas, hread, hvisit, ?_⟩
  obtain ⟨c, -, hclass, hall⟩ := walkStmt_classDef_attributes hsound hhas hread
  obtain ⟨fn, r, t, hdefines, ht, hget, -, hkept⟩ := hall setter hvisit rfl "x" (some "self")
    [some "value"] setterCode rfl (by decide) (by decide)
  refine ⟨c, fn, hclass, hdefines, ?_⟩
  rcases hkept with hkept | hlost | ⟨-, w, hw, d, bases, inner, hstmt, -⟩
  · exact hkept
  · obtain ⟨code, -, -, hbound⟩ := hdefines
    exact absurd rfl (hlost _ (Bindings.mem_of_get? hbound))
  -- there is no class in the body
  · have hmem := stmt_mem_orderIn accessors w hw
    rw [hstmt] at hmem
    simp [accessors, getterCode, setterCode, Stmt.orderIn, Stmt.order] at hmem

/-- It lacks what the getter assigns, although the getter stands in its body: the walk comes to the
getter, its parameter is bound to nothing else, and the attribute is no member in the end. -/
theorem not_registered_accessors :
    let st := (Analysis.empty {}).store
    let opened := (st.addChild ⟨0⟩ (some "C")).2
    let out := walkStmt ⟨0⟩ (.classDef "C" [] accessors) st
    (Stmt.classDef "C" [] accessors).readable = true ∧
    ⟨⟨1⟩, .function "x" (some [some "self"]) getterCode, opened⟩ ∈ visitsIn ⟨1⟩ accessors opened ∧
    some "self" ∉ Stmt.localsIn getterCode ∧
    "cached" ∈ Stmt.attributesIn (some "self") getterCode ∧
    out.completed = true ∧
    (out.store.scope ⟨0⟩).vars.get? (some "C") = some (.script ⟨3⟩) ∧
    some "cached" ∉ (out.store.cls ⟨3⟩).members := by
  refine ⟨by decide, ?_, by decide, by decide, by decide +kernel, by decide +kernel,
    by decide +kernel⟩
  simp [accessors, visitsIn, visits]

end ScriptScope.Store
