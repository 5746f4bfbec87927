import ScriptScope.Proofs.Growth
import ScriptScope.Proofs.NamedClasses

/-!
# Types after other names were bound

An assignment binds variables of its scope, adds classes and registers members with classes; a later
state of a store is `Since` the earlier one if it differs in nothing else.  The type of an expression
is then what it was before, if the names that were bound are not read for it (`infer_since`).

Not only the names in the expression are read.  The members of an instance are those of the class
that its type name stands for, and the superclasses of a class are looked up by name; `Unread` says
that the names in question are none of these.
-/

namespace ScriptScope

/-- The labels that the type of an expression depends on.  Nothing is known about a sequence,
whatever its elements are. -/
def Expr.reads : Expr → List Label
  | .name label => [label]
  | .member object label => label :: object.reads
  | .call inner | .unary inner | .paren inner | .yield inner => inner.reads
  | .binary left right => left.reads ++ right.reads
  | .integer | .float | .text | .sequence _ | .splat | .other | .fault => []

/-- The type name by which the class of a value, or that of a result, is looked up. -/
def Descriptor.classNamed? : Descriptor → Option String
  | .instanceOf typeName (some _) => some typeName
  | .function fn => fn.returns
  | .instanceOf _ none | .unknown | .static _ | .script _ => none

namespace Store

/-- A later state of a store: apart from the variables `labels` of one scope, there may be more
classes, and the classes may have more members. -/
structure Since (labels : List Label) (s : ScopeId) (st st' : Store) : Prop where
  length_scopes : st'.scopes.length = st.scopes.length
  elsewhere : ∀ t, t ≠ s → st'.scope t = st.scope t
  others : { st'.scope s with vars := (st.scope s).vars } = st.scope s
  vars : ∀ label, label ∉ labels →
    (st'.scope s).vars.get? label = (st.scope s).vars.get? label
  classes_le : st.classes.length ≤ st'.classes.length
  classes : ∀ id, st.HasClass id → (st.cls id).SameIdentity (st'.cls id)

/-- Labels that are not read for the type of an expression. -/
structure Unread (st : Store) (labels : List Label) (e : Expr) : Prop where
  reads : ∀ label ∈ e.reads, label ∉ labels
  /-- No superclass has such a name. -/
  bases : ∀ id, ∀ base ∈ (st.cls id).bases, some base ∉ labels
  /-- Nothing that is bound belongs to a class of such a name. -/
  types : st.Every fun b => ∀ typeName, b.2.classNamed? = some typeName → some typeName ∉ labels

variable {st st' st'' : Store} {s t : ScopeId} {labels more : List Label}

/-! ### Later states -/

theorem Since.refl (s : ScopeId) (st : Store) : Since [] s st st :=
  ⟨rfl, fun _ _ => rfl, rfl, fun _ _ => rfl, Nat.le_refl _, fun _ _ => .refl _⟩

theorem Since.append (h : Since labels s st st') (h' : Since more s st' st'') :
    Since (labels ++ more) s st st'' where
  length_scopes := h'.length_scopes.trans h.length_scopes
  elsewhere t ht := (h'.elsewhere t ht).trans (h.elsewhere t ht)
  others := by
    rw [← h.others, ← h'.others]
  vars label hlabel := by
    rw [List.mem_append, not_or] at hlabel
    exact (h'.vars label hlabel.2).trans (h.vars label hlabel.1)
  classes_le := Nat.le_trans h.classes_le h'.classes_le
  classes id hid :=
    (h.classes id hid).trans (h'.classes id (Nat.lt_of_lt_of_le hid h.classes_le))

theorem Since.hasScope (h : Since labels s st st') (ht : st.HasScope t) : st'.HasScope t := by
  unfold HasScope
  rwa [h.length_scopes]

theorem Since.hasClass (h : Since labels s st st') {id : ClassId} (hid : st.HasClass id) :
    st'.HasClass id :=
  Nat.lt_of_lt_of_le hid h.classes_le

/-- A store that differs in its classes alone. -/
theorem Since.of_scopes_eq (hscopes : st'.scopes = st.scopes)
    (hle : st.classes.length ≤ st'.classes.length)
    (hclasses : ∀ id, st.HasClass id → (st.cls id).SameIdentity (st'.cls id)) :
    Since [] s st st' := by
  have hread : ∀ t, st'.scope t = st.scope t := scope_of_scopes_eq hscopes
  exact ⟨by rw [hscopes], fun t _ => hread t, by rw [hread], fun label _ => by rw [hread], hle,
    hclasses⟩

theorem since_bindVar (hs : st.HasScope s) (label : Label) (d : Descriptor) :
    Since [label] s st (st.bindVar s label d) where
  length_scopes := length_scopes_bindVar ..
  elsewhere t ht := scope_bindVar_of_ne st label d ht
  others := by
    unfold bindVar
    rw [scope_modifyScope_self st s _ hs]
  vars other hother := by
    rw [vars_bindVar_self st label d hs, Bindings.get?_bind]
    rw [List.mem_singleton] at hother
    simp [hother]
  classes_le := Nat.le_refl _
  classes id _ := .refl _

theorem since_addClass (c : ClassInfo) : Since [] s st (st.addClass c).2 := by
  refine .of_scopes_eq rfl (by simp) fun id hid => ?_
  have hne : id ≠ (st.addClass c).1 := fun e => Nat.lt_irrefl _ (e ▸ hid)
  rw [cls_addClass_of_ne st hne]
  exact .refl _

theorem since_hold (v : Value) : Since [] s st (st.hold v).2 := by
  cases v with
  | held d => exact .refl s st
  | made info => exact since_addClass info

theorem since_put (id : ClassId) (member : Label) :
    Since [] s st (st.modifyClass id (·.put member)) := by
  refine .of_scopes_eq rfl (by simp) fun other hother => ?_
  by_cases hid : other = id
  · rw [hid, cls_modifyClass_self st _ (hid ▸ hother)]
    exact ClassInfo.sameIdentity_putAll _ [member]
  · rw [cls_modifyClass_of_ne st _ hid]
    exact .refl _

theorem since_registerPath (owner : Value) (path : List Label) (st : Store) :
    Since [] s st (registerPath owner path st) := by
  fun_induction registerPath owner path st with
  | case1 => exact .refl s _
  | case2 rest st id member st₁ d hd ih => exact (since_put id (some member)).append ih
  | case3 rest st id member st₁ hd => exact since_put id (some member)
  | case4 rest st info member d hd ih => exact ih
  | case5 => exact .refl s _
  | case6 => exact .refl s _

/-! ### Reading a later state -/

namespace Since

variable (h : Since labels s st st')

include h

/-- What is read of a scope besides its variables is as before. -/
theorem field {α : Type} (g : ScopeInfo → α) (hg : ∀ info vars, g { info with vars } = g info)
    (t : ScopeId) : g (st'.scope t) = g (st.scope t) := by
  by_cases ht : t = s
  · rw [ht]
    exact (hg _ _).symm.trans (congrArg g h.others)
  · rw [h.elsewhere t ht]

theorem get?_vars {label : Label} (hlabel : label ∉ labels) (t : ScopeId) :
    (st'.scope t).vars.get? label = (st.scope t).vars.get? label := by
  by_cases ht : t = s
  · rw [ht, h.vars label hlabel]
  · rw [h.elsewhere t ht]

theorem lookup? {label : Label} (hlabel : label ∉ labels) (t : ScopeId) :
    (st'.scope t).lookup? label = (st.scope t).lookup? label := by
  unfold ScopeInfo.lookup?
  rw [h.get?_vars hlabel, h.field ScopeInfo.imports fun _ _ => rfl]

/-- The other names are found as before. -/
theorem find {label : Label} (hlabel : label ∉ labels) (t : ScopeId) :
    st'.find t label = st.find t label := by
  have hchain : st'.chain t = st.chain t :=
    chain_of_parents_eq h.length_scopes (h.field ScopeInfo.parent fun _ _ => rfl) t
  have hbuiltin : st'.builtin? t = st.builtin? t := by
    funext name
    unfold builtin? builtinMembers
    rw [h.field ScopeInfo.context fun _ _ => rfl]
  unfold Store.find binding?
  simp only [hchain, h.lookup? hlabel, hbuiltin]

theorem valueType {v : Value} (hv : st.HoldsValue v) : st'.valueType v = st.valueType v := by
  cases v with
  | made info => rfl
  | held d =>
    cases d with
    | script id => exact congrArg some (h.classes id hv).name
    | _ => rfl

/-- By another name, a class body has the members that it had. -/
theorem bodyBinding? {c c' : ClassInfo} (hc : c.SameIdentity c') {label : Label}
    (hlabel : label ∉ labels) : st'.bodyBinding? c' label = st.bodyBinding? c label := by
  unfold Store.bodyBinding?
  rw [hc.scope, hc.name]
  cases c.scope with
  | none => rfl
  | some t =>
    rw [Option.bind_some, Option.bind_some, h.field ScopeInfo.className fun _ _ => rfl,
      h.get?_vars hlabel]

/-- Superclasses of other names are those that they were. -/
theorem superclasses (ctx : Context) {c c' : ClassInfo} (hc : c.SameIdentity c')
    (hbases : ∀ base ∈ c.bases, some base ∉ labels) :
    Store.superclasses ctx st' c' = Store.superclasses ctx st c := by
  have hhome : st'.home? c' = st.home? c := by
    unfold home?
    rw [hc.scope]
    cases c.scope with
    | none => rfl
    | some t => rw [Option.map_some, Option.map_some, h.field ScopeInfo.parent fun _ _ => rfl]
  unfold Store.superclasses
  rw [hc.bases]
  refine List.filterMap_congr fun base hbase => ?_
  unfold superclass? scriptSuperclass?
  rw [hhome]
  cases st.home? c with
  | none => rfl
  | some t => rw [Option.map_some, Option.map_some, h.find (hbases base hbase)]

end Since

/-! ### Classes -/

/-- A class that a lookup finds is in the store. -/
theorem Sound.hasClass_of_find (hst : st.Sound) {name : Label} {id : ClassId}
    (h : st.find t name = .held (.script id)) : st.HasClass id := by
  obtain ⟨u, -, hu⟩ := List.exists_of_findSome?_eq_some (find_eq_script_iff.mp h)
  rw [ScopeInfo.lookup?, Option.orElse_eq_orElse, Option.orElse_eq_or, Option.or_eq_some_iff] at hu
  rcases hu with hu | ⟨-, hu⟩
  · exact (hst.vars u).holds_of_get? hu
  · exact (hst.imports u).holds_of_get? hu

theorem Sound.hasClass_of_mem_superclasses (hst : st.Sound) {ctx : Context} {c : ClassInfo}
    {id : ClassId} (h : .script id ∈ Store.superclasses ctx st c) : st.HasClass id := by
  obtain ⟨base, -, ⟨members, -, hhost⟩ | ⟨-, hscript⟩⟩ := mem_superclasses_iff.mp h
  · simp at hhost
  · unfold scriptSuperclass? at hscript
    split at hscript
    · rename_i other hfound
      obtain ⟨u, -, hu⟩ := Option.map_eq_some_iff.mp hfound
      obtain rfl : other = id := by simpa using hscript
      exact hst.hasClass_of_find hu
    · simp at hscript
    · simp at hscript

/-- The class behind a value is in the store. -/
theorem Sound.hasClass_of_classBehind? (hst : st.Sound) {v : Value} (hv : st.HoldsValue v)
    {id : ClassId} (hid : st.classBehind? v = some (.script id)) : st.HasClass id := by
  cases v with
  | made info => simp [classBehind?, ancestorOf?] at hid
  | held d =>
    cases d with
    | script other =>
      obtain rfl : other = id := by simpa [classBehind?, ancestorOf?] using hid
      exact hv
    | instanceOf typeName scope =>
      cases scope with
      | none => simp [classBehind?, ancestorOf?] at hid
      | some u => exact hst.hasClass_of_find (ancestorOf?_eq_script_iff.mp hid)
    | _ => simp [classBehind?, ancestorOf?] at hid

section Lineages

variable (h : Since labels s st st') (hst : st.Sound) (ctx : Context)
  (hbases : ∀ id, ∀ base ∈ (st.cls id).bases, some base ∉ labels)

include h hst hbases

theorem lineage_since {start : Ancestor} (hstart : ∀ id, start = .script id → st.HasClass id) :
    lineage ctx st' start = lineage ctx st start := by
  -- the classes that were added are never come to
  have hrenumbered : Renumbered ctx st st' st.HasClass id id := by
    refine ⟨fun _ => rfl, fun _ => rfl, fun _ => rfl, fun _ _ _ _ e => e, fun id hid => ?_,
      fun _ _ _ hother => hst.hasClass_of_mem_superclasses hother⟩
    rw [List.map_id]
    exact h.superclasses ctx (h.classes id hid) (hbases id)
  have hlineage := hrenumbered.lineage_eq (fun id hid => iff_of_true (h.hasClass hid) hid) hstart
  rwa [List.map_id] at hlineage

theorem classAttribute?_since {start : Ancestor} (hstart : ∀ id, start = .script id → st.HasClass id)
    {member : String} (hmember : some member ∉ labels) :
    classAttribute? ctx st' start member = classAttribute? ctx st start member := by
  unfold classAttribute?
  rw [lineage_since h hst ctx hbases hstart]
  have hmem : ∀ id, .script id ∈ lineage ctx st start → st.HasClass id := fun id hid =>
    mem_classIds_iff.mp (mem_of_script_mem_lineageFrom ctx st _ _ _ hid)
  have hattribute : ∀ a ∈ lineage ctx st start,
      st'.attributeAt? member a = st.attributeAt? member a := by
    intro a ha
    cases a with
    | host members => rfl
    | script id =>
      exact congrArg (Option.map Value.held) (h.bodyBinding? (h.classes id (hmem id ha)) hmember)
    | made info =>
      exact congrArg (Option.map Value.held) (h.bodyBinding? (.refl info) hmember)
  rw [← List.head?_filterMap, ← List.head?_filterMap, List.filterMap_congr hattribute]

end Lineages

/-! ### Types of expressions -/

/-- A value that does not belong to a class of one of the names. -/
def Unrelated (labels : List Label) : Value → Prop
  | .held d => ∀ typeName, d.classNamed? = some typeName → some typeName ∉ labels
  | .made _ => True

theorem sources_unrelated (htypes : st.Every fun b => ∀ typeName,
    b.2.classNamed? = some typeName → some typeName ∉ labels) (t : ScopeId) :
    st.Sources t (Unrelated labels) where
  unknown := by simp [Unrelated, Value.unknown, Descriptor.classNamed?]
  host typeName := by simp [Unrelated, Value.ofHostType, Descriptor.classNamed?]
  imported name := by simp [Unrelated, Descriptor.classNamed?]
  bound := htypes
  builtin _ := trivial
  result := by
    intro fn typeName hfn hreturns other hother
    cases hscope : fn.scope with
    | none => simp [hscope, Descriptor.classNamed?] at hother
    | some u =>
      obtain rfl : typeName = other := by simpa [hscope, Descriptor.classNamed?] using hother
      exact hfn typeName hreturns

section Types

variable (h : Since labels s st st') (hst : st.Sound)

include h

theorem classBehind?_since {v : Value} (hv : Unrelated labels v) :
    st'.classBehind? v = st.classBehind? v := by
  cases v with
  | made info => rfl
  | held d =>
    cases d with
    | instanceOf typeName scope =>
      cases scope with
      | none => rfl
      | some u => exact congrArg ancestorOf? (h.find (hv typeName rfl) u)
    | _ => rfl

include hst

theorem memberOf_since (hbases : ∀ id, ∀ base ∈ (st.cls id).bases, some base ∉ labels)
    {base : Value} (hholds : st.HoldsValue base) (hbase : Unrelated labels base) {label : Label}
    (hlabel : label ∉ labels) : st'.memberOf t base label = st.memberOf t base label := by
  unfold memberOf
  rw [h.valueType hholds, h.field ScopeInfo.context fun _ _ => rfl, classBehind?_since h hbase]
  cases st.valueType base with
  | none => rfl
  | some typeName =>
    cases label with
    | none => rfl
    | some member =>
      dsimp only
      cases hstart : st.classBehind? base with
      | none => rfl
      | some start =>
        have hclass : ∀ id, start = .script id → st.HasClass id := by
          rintro id rfl
          exact hst.hasClass_of_classBehind? hholds hstart
        rw [Option.bind_some, Option.bind_some, classAttribute?_since h hst _ hbases hclass hlabel]

/-- What is not read for the type of an expression can be bound without changing the type. -/
theorem infer_since (ht : st.HasScope t) {e : Expr} (hunread : st.Unread labels e) :
    st'.infer t e = st.infer t e := by
  obtain ⟨hreads, hbases, htypes⟩ := hunread
  fun_induction Store.infer st t e with
  | case1 | case3 | case4 | case5 | case14 | case15 | case16 | case17 => rw [infer]
  | case2 name => rw [infer, h.find (hreads _ (List.mem_singleton_self _))]
  | case6 object label ih =>
    rw [Expr.reads, List.forall_mem_cons] at hreads
    rw [infer, ih hreads.2]
    cases hobject : st.infer t object with
    | none => rfl
    | some base =>
      exact congrArg some (memberOf_since h hst hbases (hst.holdsValue_infer ht hobject)
        ((sources_unrelated htypes t).forall_infer hobject) hreads.1)
  | case7 callee ih => rw [infer, ih hreads]
  | case8 left right hfloat => rw [infer, ite_cond_eq_true _ _ (eq_true hfloat)]
  | case9 left right hfloat hinteger =>
    rw [infer, ite_cond_eq_false _ _ (eq_false hfloat), ite_cond_eq_true _ _ (eq_true hinteger)]
  | case10 left right hfloat hinteger ihl ihr =>
    rw [Expr.reads, List.forall_mem_append] at hreads
    rw [infer, ite_cond_eq_false _ _ (eq_false hfloat),
      ite_cond_eq_false _ _ (eq_false hinteger), ihl hreads.1, ihr hreads.2]
  | case11 operand ih => rw [infer, ih hreads]
  | case12 inner ih => rw [infer, ih hreads]
  | case13 inner ih => rw [infer, ih hreads]

end Types

end Store

end ScriptScope
