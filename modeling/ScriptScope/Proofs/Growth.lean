import ScriptScope.Proofs.Outline

/-!
# What a walk leaves of a store

Tables, children and members are added to at their end and never taken away (`Growth`).  What a
class is apart from its members, its identity, is settled once it is no placeholder; a placeholder
may take over the identity of a class that the walk defines (`WritesOn.same_or_taken`), and if no
class bears the name of a placeholder, it does so at most once (`WritesOn.same_or_became`).

With what a walk may write to, this tells how a walk leaves everything that was there before it
(`walkBody_preserves`).
-/

namespace ScriptScope

theorem Bindings.names_prefix_bind (table : Bindings) (name : Label) (value : Descriptor) :
    table.names <+: (table.bind name value).names := by
  rw [names_bind]
  split
  · exact List.prefix_rfl
  · exact List.prefix_append ..

namespace ClassInfo

theorem members_prefix_putAll (c : ClassInfo) (members : List Label) :
    c.members <+: (c.putAll members).members := by
  rw [members_putAll]
  exact List.prefix_append ..

/-- Two classes that differ in their members at most. -/
structure SameIdentity (c c' : ClassInfo) : Prop where
  name : c'.name = c.name
  bases : c'.bases = c.bases
  params : c'.params = c.params
  scope : c'.scope = c.scope

theorem SameIdentity.refl (c : ClassInfo) : c.SameIdentity c :=
  ⟨rfl, rfl, rfl, rfl⟩

theorem SameIdentity.trans {c₁ c₂ c₃ : ClassInfo} (h : c₁.SameIdentity c₂)
    (h' : c₂.SameIdentity c₃) : c₁.SameIdentity c₃ :=
  ⟨h'.name.trans h.name, h'.bases.trans h.bases, h'.params.trans h.params, h'.scope.trans h.scope⟩

theorem SameIdentity.symm {c c' : ClassInfo} (h : c.SameIdentity c') : c'.SameIdentity c :=
  ⟨h.name.symm, h.bases.symm, h.params.symm, h.scope.symm⟩

/-- Registering members does not change the identity. -/
theorem sameIdentity_putAll (c : ClassInfo) (members : List Label) :
    c.SameIdentity (c.putAll members) := by
  rw [putAll_eq]
  exact ⟨rfl, rfl, rfl, rfl⟩

theorem SameIdentity.isPlaceholder {c c' : ClassInfo} (h : c.SameIdentity c') :
    c'.isPlaceholder = c.isPlaceholder := by
  unfold ClassInfo.isPlaceholder
  rw [h.name]

end ClassInfo

namespace Store

variable {may : ScopeId → Prop} {names : Label → Prop} {terms : Terms} {st st' st'' : Store}

/-! ### Nothing is taken away -/

/-- What a store gains, it gains at the end. -/
structure Growth (st st' : Store) : Prop where
  vars : ∀ t, (st.scope t).vars.names <+: (st'.scope t).vars.names
  imports : ∀ t, (st.scope t).imports.names <+: (st'.scope t).imports.names
  children : ∀ t, (st.scope t).children <+: (st'.scope t).children
  members : ∀ id, st.HasClass id → (st.cls id).members <+: (st'.cls id).members

theorem Growth.trans (h : Growth st st') (h' : Growth st' st'')
    (hclasses : st.classes.length ≤ st'.classes.length) : Growth st st'' where
  vars t := (h.vars t).trans (h'.vars t)
  imports t := (h.imports t).trans (h'.imports t)
  children t := (h.children t).trans (h'.children t)
  members id hid := (h.members id hid).trans (h'.members id (Nat.lt_of_lt_of_le hid hclasses))

/-- If no scope was changed, it is for the classes to have grown. -/
theorem Growth.of_scopes_eq (hscopes : ∀ t, st'.scope t = st.scope t)
    (hmembers : ∀ id, st.HasClass id → (st.cls id).members <+: (st'.cls id).members) :
    Growth st st' where
  vars t := by simp [hscopes t]
  imports t := by simp [hscopes t]
  children t := by simp [hscopes t]
  members := hmembers

theorem Growth.refl (st : Store) : Growth st st :=
  .of_scopes_eq (fun _ => rfl) fun _ _ => List.prefix_rfl

theorem Growth.bindVar {t : ScopeId} (ht : st.HasScope t) (label : Label) (d : Descriptor) :
    Growth st (st.bindVar t label d) := by
  refine ⟨fun u => ?_, fun u => ?_, fun u => ?_, fun id _ => List.prefix_rfl⟩
  · by_cases hu : u = t
    · rw [hu, vars_bindVar_self st label d ht]
      exact Bindings.names_prefix_bind ..
    · simp [scope_bindVar_of_ne st label d hu]
  · simp
  · simp

theorem Growth.bindImport {t : ScopeId} (ht : st.HasScope t) (label : Label) (d : Descriptor) :
    Growth st (st.bindImport t label d) := by
  refine ⟨fun u => ?_, fun u => ?_, fun u => ?_, fun id _ => List.prefix_rfl⟩
  · simp
  · by_cases hu : u = t
    · rw [hu, imports_bindImport_self st label d ht]
      exact Bindings.names_prefix_bind ..
    · simp [scope_bindImport_of_ne st label d hu]
  · simp

theorem Growth.addChild {t : ScopeId} (ht : st.HasScope t) (className : Option String) :
    Growth st (st.addChild t className).2 := by
  refine ⟨fun u => ?_, fun u => ?_, fun u => ?_, fun id _ => List.prefix_rfl⟩
  · simp [(tables_addChild className ht u).1]
  · simp [(tables_addChild className ht u).2]
  · rcases st.addChild_cases t className u with rfl | rfl | e
    · have hnew : ¬ st.HasScope (st.addChild t className).1 := Nat.lt_irrefl _
      rw [scope_of_not_hasScope hnew]
      exact List.nil_prefix
    · rw [scope_addChild_self st className ht]
      exact List.prefix_append ..
    · simp [e]

theorem Growth.addClass (c : ClassInfo) : Growth st (st.addClass c).2 := by
  refine .of_scopes_eq (scope_addClass st c) fun id hid => ?_
  have hne : id ≠ (st.addClass c).1 := fun e => Nat.lt_irrefl _ (e ▸ hid)
  simp [cls_addClass_of_ne st hne]

/-- Changing a class adds to its members if the change does. -/
theorem Growth.modifyClass (id : ClassId) {f : ClassInfo → ClassInfo}
    (hf : (st.cls id).members <+: (f (st.cls id)).members) : Growth st (st.modifyClass id f) := by
  refine .of_scopes_eq (scope_modifyClass st id f) fun other hother => ?_
  by_cases h : other = id
  · subst h
    rwa [cls_modifyClass_self st f hother]
  · simp [cls_modifyClass_of_ne st f h]

theorem Write.growth (h : Write may names terms st st') : Growth st st' := by
  cases h with
  | var allowed bound has held value => exact .bindVar has ..
  | imported allowed bound has => exact .bindImport has ..
  | opened className allowed has => exact .addChild has className
  | made stands named => exact .addClass _
  | closed name bases has => exact .addClass _
  | grown id known => exact .modifyClass id (ClassInfo.members_prefix_putAll ..)
  | @unified p id isOpen has taker =>
    exact .modifyClass p (ClassInfo.members_prefix_putAll (st.cls p) (st.cls id).members)

theorem WritesOn.growth (h : WritesOn may names terms st st') : Growth st st' := by
  induction h with
  | refl => exact .refl st
  | tail hwrites hwrite ih =>
    exact ih.trans hwrite.growth (WritesOn.writes hwrites).change.classes_le

/-! ### Identities -/

/-- After a write a class is what it was, unless it is a placeholder that was turned into a class
that may take over. -/
theorem Write.same_or_took (h : Write may names terms st st') {id : ClassId}
    (hid : st.HasClass id) : (st.cls id).SameIdentity (st'.cls id) ∨
      (st.cls id).isPlaceholder = true ∧
      ∃ d, st.HasClass d ∧ terms.taker (st.cls d).name d ∧
        (st.cls d).SameIdentity (st'.cls id) := by
  have hold : ∀ c, id ≠ (st.addClass c).1 := fun c e => Nat.lt_irrefl _ (e ▸ hid)
  cases h with
  | var allowed bound has held value => exact .inl (.refl _)
  | imported allowed bound has => exact .inl (.refl _)
  | opened className allowed has => exact .inl (.refl _)
  | made stands named =>
    rw [cls_addClass_of_ne st (hold _)]
    exact .inl (.refl _)
  | closed name bases has =>
    rw [cls_addClass_of_ne st (hold _)]
    exact .inl (.refl _)
  | grown other known =>
    by_cases h : id = other
    · subst h
      rw [cls_modifyClass_self st _ hid]
      exact .inl (ClassInfo.sameIdentity_putAll ..)
    · rw [cls_modifyClass_of_ne st _ h]
      exact .inl (.refl _)
  | @unified p d isOpen has taker =>
    by_cases h : id = p
    · subst h
      rw [cls_modifyClass_self st _ hid]
      exact .inr ⟨isOpen, d, has, taker, ⟨rfl, rfl, rfl, rfl⟩⟩
    · rw [cls_modifyClass_of_ne st _ h]
      exact .inl (.refl _)

/-- After any number of writes a class is what it was, unless it is a placeholder that bears the name
of a class that may take over. -/
theorem WritesOn.same_or_taken (h : WritesOn may names terms st st') {id : ClassId}
    (hid : st.HasClass id) : (st.cls id).SameIdentity (st'.cls id) ∨
      (st.cls id).isPlaceholder = true ∧ ∃ d, terms.taker (st'.cls id).name d := by
  induction h with
  | refl => exact .inl (.refl _)
  | @tail mid last hwrites hwrite ih =>
    have hmid : mid.HasClass id :=
      Nat.lt_of_lt_of_le hid (WritesOn.writes hwrites).change.classes_le
    rcases hwrite.same_or_took hmid with hsame | ⟨hopen, d, -, htaker, htook⟩
    · rcases ih with hkept | ⟨hopen, d, htaken⟩
      · exact .inl (hkept.trans hsame)
      · rw [← hsame.name] at htaken
        exact .inr ⟨hopen, d, htaken⟩
    · rw [← htook.name] at htaker
      refine .inr ⟨?_, d, htaker⟩
      rcases ih with hkept | ⟨hopen, -⟩
      · rwa [hkept.isPlaceholder] at hopen
      · exact hopen

section Settled

variable (htakers : ∀ name d, terms.taker name d → name ≠ placeholderName)

include htakers

/-- A class that may take over is no placeholder. -/
theorem isPlaceholder_of_taker {c : ClassInfo} {d : ClassId} (h : terms.taker c.name d) :
    c.isPlaceholder = false :=
  decide_eq_false (htakers _ _ h)

/-- Unless a class is called like a placeholder, a placeholder becomes a class at most once, and the
class that it becomes does not change any more. -/
theorem WritesOn.same_or_became (h : WritesOn may names terms st st') {id : ClassId}
    (hid : st.HasClass id) : (st.cls id).SameIdentity (st'.cls id) ∨
      (st.cls id).isPlaceholder = true ∧
      ∃ d, st'.HasClass d ∧ terms.taker (st'.cls d).name d ∧
        (st'.cls d).SameIdentity (st'.cls id) := by
  induction h with
  | refl => exact .inl (.refl _)
  | @tail mid last hwrites hwrite ih =>
    have hmid : mid.HasClass id :=
      Nat.lt_of_lt_of_le hid (WritesOn.writes hwrites).change.classes_le
    -- what is no placeholder keeps its identity
    have hsettled : ∀ q, mid.HasClass q → (mid.cls q).isPlaceholder = false →
        (mid.cls q).SameIdentity (last.cls q) := by
      intro q hq hclosed
      rcases hwrite.same_or_took hq with hsame | ⟨hopen, -⟩
      · exact hsame
      · rw [hclosed] at hopen
        exact absurd hopen Bool.false_ne_true
    -- so a class that took over once is there in the end
    have hlast : ∀ d, mid.HasClass d → terms.taker (mid.cls d).name d →
        (mid.cls d).SameIdentity (last.cls id) →
        ∃ d, last.HasClass d ∧ terms.taker (last.cls d).name d ∧
          (last.cls d).SameIdentity (last.cls id) := by
      intro d hd htaker htook
      have hsame := hsettled d hd (isPlaceholder_of_taker htakers htaker)
      refine ⟨d, Nat.lt_of_lt_of_le hd hwrite.change.classes_le, ?_, hsame.symm.trans htook⟩
      rwa [hsame.name]
    rcases ih with hkept | ⟨hopen, d, hd, htaker, htook⟩
    · rcases hwrite.same_or_took hmid with hsame | ⟨hopen, d, hd, htaker, htook⟩
      · exact .inl (hkept.trans hsame)
      · rw [hkept.isPlaceholder] at hopen
        exact .inr ⟨hopen, hlast d hd htaker htook⟩
    · have hclosed : (mid.cls id).isPlaceholder = false := by
        rw [htook.isPlaceholder]
        exact isPlaceholder_of_taker htakers htaker
      exact .inr ⟨hopen, hlast d hd htaker (htook.trans (hsettled id hmid hclosed))⟩

end Settled

/-! ### Walks -/

/-- What a walk of statements in a scope leaves of what was there before. -/
structure Preserves (s : ScopeId) (body : List Stmt) (st st' : Store) : Prop where
  /-- All other scopes are as they were. -/
  elsewhere : ∀ t, st.HasScope t → t ≠ s → st'.scope t = st.scope t
  vars : (st.scope s).vars.names <+: (st'.scope s).vars.names
  imports : (st.scope s).imports.names <+: (st'.scope s).imports.names
  children : (st.scope s).children <+: (st'.scope s).children
  parent : (st'.scope s).parent = (st.scope s).parent
  className : (st'.scope s).className = (st.scope s).className
  members : ∀ id, st.HasClass id → (st.cls id).members <+: (st'.cls id).members
  settled : ∀ id, st.HasClass id → (st.cls id).isPlaceholder = false →
    (st.cls id).SameIdentity (st'.cls id)
  /-- A placeholder stays one or becomes a class, which some statement of the walk has defined. -/
  placeholder : ∀ id, st.HasClass id → (st.cls id).isPlaceholder = true →
    (st.cls id).SameIdentity (st'.cls id) ∨
    ∃ v ∈ visitsIn s body st, ∃ name d, v.DefinesClass name d ∧ ¬ st.HasClass d ∧
      (st'.cls d).name = name ∧ name ≠ placeholderName ∧ (st'.cls d).SameIdentity (st'.cls id)

/-- A class that a walk defines is new. -/
theorem Standing.not_hasClass_of_mem_visitsIn {ctx : Context} {s : ScopeId} {body : List Stmt}
    (hs : Standing ctx (fun _ => True) st s) {v : Visit} (hv : v ∈ visitsIn s body st)
    {name : String} {d : ClassId} (hd : v.DefinesClass name d) : ¬ st.HasClass d := by
  have hpasses := Keeping.passes_visitsIn body hs.free (fun w _ => w.meets_free) v hv
  have hnew := (Standing.of_mem_visitsIn body hs v hv).not_hasClass_of_definesClass hd
  exact fun hold => hnew (Nat.lt_of_lt_of_le hold (Writes.change hpasses.before).classes_le)

/-- **A walk writes only where it may, and classes only accumulate.**  Whatever the statements are,
readable or not, walking them in a scope of a sound store leaves all other scopes alone; in the
scope itself names and children are added behind those that are there.  Classes gain members behind
those they have.  Their identity stays what it is unless they are placeholders, and these can only
take over the identity of a class that the walk defines, provided that no class is called like a
placeholder. -/
theorem walkBody_preserves {s : ScopeId} (hst : st.Sound) (hs : st.HasScope s) {body : List Stmt}
    (hnamed : ∀ name bases inner, Stmt.classDef name bases inner ∈ Stmt.orderIn body →
      name ≠ placeholderName) :
    Preserves s body st (walkBody s body st) := by
  -- the classes that take over are those that the walk defines
  let terms : Terms :=
    ⟨fun _ => True, fun name d => ∃ v ∈ visitsIn s body st, v.DefinesClass name d⟩
  have htakers : ∀ name d, terms.taker name d → name ≠ placeholderName := by
    rintro name d ⟨v, hv, bases, inner, hstmt, -⟩
    refine hnamed name bases inner ?_
    rw [← hstmt]
    exact stmt_mem_orderIn body v hv
  have hmeets : ∀ v ∈ visitsIn s body st, v.Meets terms :=
    fun v hv => ⟨fun _ _ => trivial, fun name d hd => ⟨v, hv, hd⟩⟩
  have hnear : Keeping (st.scope s).context (Near s st.scopes.length) terms st s :=
    ⟨standing_near hst hs, fun _ _ _ _ _ => trivial⟩
  have hwrites : WritesOn (Near s st.scopes.length) (fun _ => True) terms st (walkBody s body st) :=
    Keeping.writes_walkBody body hnear (fun _ _ _ _ => trivial) hmeets
  have hchange := hwrites.writes.change
  have hgrowth := hwrites.growth
  refine ⟨?_, hgrowth.vars s, hgrowth.imports s, hgrowth.children s, hchange.parent s hs,
    hchange.className s hs, hgrowth.members, ?_, ?_⟩
  · intro t ht hne
    refine hchange.elsewhere t ht ?_
    rintro (e | hle)
    · exact hne e
    · exact absurd ht (Nat.not_lt.mpr hle)
  · intro id hid hclosed
    rcases hwrites.same_or_became htakers hid with hsame | ⟨hopen, -⟩
    · exact hsame
    · rw [hclosed] at hopen
      exact absurd hopen Bool.false_ne_true
  · intro id hid _
    refine (hwrites.same_or_became htakers hid).imp_right ?_
    rintro ⟨-, d, -, htaker, hbecame⟩
    have hname := htakers _ _ htaker
    obtain ⟨v, hv, hdefines⟩ := htaker
    have hstand : Standing (st.scope s).context (fun _ => True) st s :=
      ⟨hst, hs, rfl, trivial, fun _ _ => trivial⟩
    exact ⟨v, hv, _, d, hdefines, hstand.not_hasClass_of_mem_visitsIn hv hdefines, rfl, hname,
      hbecame⟩

/-- A function that stands outside of any class: `def f(self): self.x = 1`. -/
def looseMethod : List Stmt :=
  [.function "f" (some [some "self"])
    [.assign [.mk [.member (some "self") [some "x"]] (some .integer)]]]

/-- A statement that cannot be read, and a class that borrows the function: `class C: g = f`. -/
def borrowingClass : List Stmt :=
  [.fault, .classDef "C" [] [.assign [.mk [.name (some "g")] (some (.name (some "f")))]]]

/-- Walking the class turns the placeholder that the function left into the class. -/
theorem walkBody_borrowingClass_preserves :
    let before := walkBody ⟨0⟩ looseMethod (Analysis.empty {}).store
    let after := walkBody ⟨0⟩ borrowingClass before
    before.Sound ∧ before.HasScope ⟨0⟩ ∧ before.HasClass ⟨0⟩ ∧
      (before.cls ⟨0⟩).isPlaceholder = true ∧ (before.cls ⟨0⟩).members = [some "x"] ∧
      (after.cls ⟨0⟩).name = "C" ∧ (after.cls ⟨0⟩).members = [some "x", some "g"] ∧
      Preserves ⟨0⟩ borrowingClass before after := by
  intro before after
  have hstand : Standing {} (fun _ => True) before ⟨0⟩ :=
    (Analysis.standing_empty {} fun _ => trivial).after_walkBody looseMethod
  refine ⟨hstand.sound, hstand.has, by decide +kernel, by decide +kernel, by decide +kernel,
    by decide +kernel, by decide +kernel, walkBody_preserves hstand.sound hstand.has ?_⟩
  intro name bases inner hmem
  simp only [borrowingClass, Stmt.orderIn, Stmt.order, List.cons_append, List.nil_append,
    List.append_nil, List.mem_cons, reduceCtorEq, Stmt.classDef.injEq, List.not_mem_nil,
    or_false, false_or] at hmem
  rw [hmem.1]
  decide

end Store

end ScriptScope
