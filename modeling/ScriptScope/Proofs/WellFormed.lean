import ScriptScope.Proofs.Growth
import ScriptScope.Proofs.Inferred
import ScriptScope.Proofs.NameCompletion
import ScriptScope.Proofs.Unification
import ScriptScope.Proofs.Upholds

/-!
# Well-formed scope trees

The scopes of a script form a tree, its functions and instances belong to scopes of this tree that
functions opened, and a class is the placeholder of a parameter, a class that the script defines, or
one that the builtin symbols list.  All of this is `WellFormed`.  It holds of an outermost scope
with nothing in it, and every single thing that a walk does upholds it (`WellFormed.upholds`), so it
holds of the scopes of every script, readable or not: `Analysis.scopeTree_wellFormed`.
-/

namespace ScriptScope

/-- The members that the builtin symbols list for a name. -/
def Context.listedMembers (ctx : Context) (name : String) : List String :=
  ctx.builtinEntries.filterMap (Text.after? (ctx.builtinModule ++ "." ++ name ++ "."))

namespace Store

/-! ### The tree of scopes -/

/-- The scopes of the store form a tree below a root: the root alone has no parent, and every other
scope is listed once by its parent. -/
structure Rooted (root : ScopeId) (st : Store) : Prop where
  has : st.HasScope root
  parent_root : (st.scope root).parent = none
  eq_root : ∀ s, st.HasScope s → (st.scope s).parent = none → s = root
  listed : ∀ s p, st.HasScope s → (st.scope s).parent = some p → s ∈ (st.scope p).children
  nodup : ∀ p, (st.scope p).children.Nodup

variable {st st' : Store} {root s : ScopeId}

/-- Binding names and writing to classes leaves the tree as it is. -/
theorem Rooted.of_same (h : st.Rooted root) (hlen : st'.scopes.length = st.scopes.length)
    (hparent : ∀ t, (st'.scope t).parent = (st.scope t).parent)
    (hchildren : ∀ t, (st'.scope t).children = (st.scope t).children) : st'.Rooted root := by
  have hhas : ∀ t, st'.HasScope t ↔ st.HasScope t := by
    intro t
    unfold HasScope
    rw [hlen]
  refine ⟨(hhas root).mpr h.has, by rw [hparent, h.parent_root], ?_, ?_, ?_⟩
  · intro t ht hnone
    exact h.eq_root t ((hhas t).mp ht) (by rwa [hparent] at hnone)
  · intro t p ht hp
    rw [hchildren]
    exact h.listed t p ((hhas t).mp ht) (by rwa [hparent] at hp)
  · intro p
    rw [hchildren]
    exact h.nodup p

theorem Rooted.addChild (h : st.Rooted root) (hst : st.Sound) (hs : st.HasScope s)
    (className : Option String) : (st.addChild s className).2.Rooted root := by
  have hopened : Leads st (st.addChild s className).2 :=
    .single (.opened className trivial hs)
  have hold : ∀ t, (st.addChild s className).2.HasScope t → st.HasScope t ∨
      t = (st.addChild s className).1 := by
    intro t ht
    unfold HasScope at ht ⊢
    rw [length_scopes_addChild] at ht
    rcases Nat.lt_succ_iff_lt_or_eq.mp ht with hlt | heq
    · exact .inl hlt
    · exact .inr (ScopeId.ext heq)
  refine ⟨hopened.change.hasScope h.has, ?_, ?_, ?_, ?_⟩
  · rw [hopened.change.parent root h.has, h.parent_root]
  · intro t ht hnone
    rcases hold t ht with ht | rfl
    · rw [hopened.change.parent t ht] at hnone
      exact h.eq_root t ht hnone
    · rw [scope_addChild_new] at hnone
      simp at hnone
  · intro t p ht hp
    rcases hold t ht with ht | rfl
    · rw [hopened.change.parent t ht] at hp
      exact ((Growth.addChild hs className).children p).subset (h.listed t p ht hp)
    -- the new scope is the last child of the scope that it stands in
    · rw [scope_addChild_new] at hp
      rw [← Option.some.inj hp, scope_addChild_self st className hs]
      exact List.mem_append_right _ (List.mem_singleton_self _)
  · intro p
    rcases st.addChild_cases s className p with rfl | rfl | e
    · rw [scope_addChild_new]
      exact List.nodup_nil
    · rw [scope_addChild_self st className hs]
      refine (h.nodup p).append (List.nodup_singleton _) (List.disjoint_singleton.mpr ?_)
      exact fun hmem => Nat.lt_irrefl _ (hst.child p _ hmem).1
    · rw [e]
      exact h.nodup p

/-- Every scope but the root is listed once, by its parent, and by no other scope. -/
theorem Rooted.count_children (h : st.Rooted root) (hst : st.Sound) (hs : st.HasScope s)
    (hne : s ≠ root) : ∃ p, (st.scope s).parent = some p ∧
      ∀ q, (st.scope q).children.count s = if q = p then 1 else 0 := by
  cases hparent : (st.scope s).parent with
  | none => exact absurd (h.eq_root s hs hparent) hne
  | some p =>
    refine ⟨p, rfl, fun q => ?_⟩
    split
    · rename_i hq
      rw [hq]
      exact List.count_eq_one_of_mem (h.nodup p) (h.listed s p hs hparent)
    · rename_i hq
      refine List.count_eq_zero_of_not_mem fun hmem => hq ?_
      exact Option.some.inj ((hst.child q s hmem).2.symm.trans hparent)

/-- The way out of every scope ends at the root. -/
theorem Rooted.getLast?_chain (h : st.Rooted root) (hst : st.Sound) (hs : st.HasScope s) :
    (st.chain s).getLast? = some root := by
  -- outwards, on the number of the scope
  induction hk : s.index using Nat.strongRecOn generalizing s with
  | ind k ih =>
    rw [chain_eq hst hs]
    cases hparent : (st.scope s).parent with
    | none => rw [h.eq_root s hs hparent, List.getLast?_singleton]
    | some p =>
      have hlt := hst.parent_lt s p hparent
      have hp := ih p.index (hk ▸ hlt) (Nat.lt_trans hlt hs) rfl
      rw [List.getLast?_cons, hp, Option.getD_some]

/-! ### What is bound -/

/-- A scope that a function opened. -/
structure IsFunctionScope (st : Store) (s : ScopeId) : Prop where
  has : st.HasScope s
  nested : (st.scope s).parent ≠ none
  noClass : (st.scope s).className = none

/-- A descriptor that a walk can bind: the scope of a function is one that a function opened, and
binds its parameters; that of an instance is one that a function opened. -/
def Proper (st : Store) : Descriptor → Prop
  | .function fn => fn.returns ≠ some placeholderName ∧ ∃ s, fn.scope = some s ∧
      st.IsFunctionScope s ∧ ∀ p ∈ fn.params, p ∈ (st.scope s).vars.names
  | .instanceOf _ scope => ∀ s, scope = some s → st.IsFunctionScope s
  | .script id => st.HasClass id
  | .unknown | .static _ => True

/-- What a class of a script is. -/
inductive Classified (ctx : Context) (st : Store) (c : ClassInfo) : Prop
  /-- The placeholder of a parameter. -/
  | placeholder {s : ScopeId} (name : c.name = placeholderName) (bases : c.bases = [])
    (params : c.params = []) (scope : c.scope = some s) (function : st.IsFunctionScope s)
  /-- A class that the script defines, or a receiver that became one. -/
  | defined {s : ScopeId} (name : c.name ≠ placeholderName) (bases : placeholderName ∉ c.bases)
    (scope : c.scope = some s) (has : st.HasScope s) (body : (st.scope s).className = some c.name)
  /-- A class that was made up from the builtin symbols: it begins with what they list for it. -/
  | builtin (name : c.name ≠ placeholderName) (bases : c.bases = []) (params : c.params = [])
    (listed : ctx.listedMembers c.name ≠ [])
    (members : (ctx.listedMembers c.name).map some <+: c.members)

/-- A value that a walk can bind. -/
def ProperValue (ctx : Context) (st : Store) : Value → Prop
  | .held d => st.Proper d
  | .made info => st.Classified ctx info ∧ info.members.Nodup

section Lasting

variable {ctx : Context} (h : Leads st st')

include h

theorem IsFunctionScope.mono (hs : st.IsFunctionScope s) : st'.IsFunctionScope s where
  has := h.change.hasScope hs.has
  nested := by
    rw [h.change.parent s hs.has]
    exact hs.nested
  noClass := by
    rw [h.change.className s hs.has]
    exact hs.noClass

theorem Proper.mono {d : Descriptor} (hd : st.Proper d) : st'.Proper d := by
  cases d with
  | function fn =>
    obtain ⟨hreturns, s, hscope, hfunction, hparams⟩ := hd
    refine ⟨hreturns, s, hscope, hfunction.mono h, fun p hp => ?_⟩
    exact (h.growth.vars s).subset (hparams p hp)
  | instanceOf typeName scope => exact fun s hs => (hd s hs).mono h
  | script id => exact Nat.lt_of_lt_of_le hd h.change.classes_le
  | unknown => trivial
  | static name => trivial

theorem Classified.mono {c : ClassInfo} (hc : st.Classified ctx c) : st'.Classified ctx c := by
  cases hc with
  | placeholder name bases params scope function =>
    exact .placeholder name bases params scope (function.mono h)
  | @defined s name bases scope has body =>
    refine .defined name bases scope (h.change.hasScope has) ?_
    rw [h.change.className s has]
    exact body
  | builtin name bases params listed members => exact .builtin name bases params listed members

theorem ProperValue.mono {v : Value} (hv : st.ProperValue ctx v) : st'.ProperValue ctx v := by
  cases v with
  | held d => exact Proper.mono h hv
  | made info => exact ⟨hv.1.mono h, hv.2⟩

end Lasting

/-- Registering members does not change what a class is. -/
theorem Classified.putAll {ctx : Context} {c : ClassInfo} (hc : st.Classified ctx c)
    (members : List Label) : st.Classified ctx (c.putAll members) := by
  have hsame := c.sameIdentity_putAll members
  cases hc with
  | placeholder name bases params scope function =>
    exact .placeholder (by rw [hsame.name, name]) (by rw [hsame.bases, bases])
      (by rw [hsame.params, params]) (by rw [hsame.scope, scope]) function
  | defined name bases scope has body =>
    exact .defined (by rwa [hsame.name]) (by rwa [hsame.bases]) (by rw [hsame.scope, scope]) has
      (by rw [hsame.name, body])
  | builtin name bases params listed members =>
    refine .builtin (by rwa [hsame.name]) (by rw [hsame.bases, bases])
      (by rw [hsame.params, params]) (by rwa [hsame.name]) ?_
    rw [hsame.name]
    exact members.trans (ClassInfo.members_prefix_putAll ..)

/-- What scripts are made of: a tree of scopes whose bindings are proper, and classes of the three
kinds, each of which has different members. -/
structure WellFormed (ctx : Context) (root : ScopeId) (st : Store) : Prop where
  rooted : st.Rooted root
  bound : st.Every fun b => st.Proper b.2
  classes : ∀ id, st.HasClass id → st.Classified ctx (st.cls id) ∧ (st.cls id).members.Nodup

namespace WellFormed

variable {ctx : Context}

/-! ### Single steps -/

section Steps

variable (h : st.WellFormed ctx root)

include h

/-- What was bound before is proper later. -/
theorem every (hleads : Leads st st') : st.Every fun b => st'.Proper b.2 :=
  fun t b hb => (h.bound t b hb).mono hleads

/-- Classes that are as they were need no second look. -/
theorem classes_of_cls_eq (hleads : Leads st st') (hlen : st'.classes.length = st.classes.length)
    (hcls : ∀ id, st'.cls id = st.cls id) (id : ClassId) (hid : st'.HasClass id) :
    st'.Classified ctx (st'.cls id) ∧ (st'.cls id).members.Nodup := by
  unfold HasClass at hid
  rw [hlen] at hid
  rw [hcls id]
  exact ⟨(h.classes id hid).1.mono hleads, (h.classes id hid).2⟩

theorem bindVar {label : Label} {d : Descriptor} (hs : st.HasScope s) (hd : st.Proper d)
    (hleads : Leads st (st.bindVar s label d)) : (st.bindVar s label d).WellFormed ctx root where
  rooted := h.rooted.of_same (by simp) (by simp) (by simp)
  bound := (h.every hleads).bindVar hs (hd.mono hleads)
  classes := h.classes_of_cls_eq hleads (by simp) (by simp)

theorem bindImport {label : Label} {name : String} (hs : st.HasScope s) :
    (st.bindImport s label (.static name)).WellFormed ctx root := by
  have hleads : Leads st (st.bindImport s label (.static name)) :=
    .single (.imported trivial trivial hs)
  exact ⟨h.rooted.of_same (by simp) (by simp) (by simp),
    (h.every hleads).bindImport hs trivial, h.classes_of_cls_eq hleads (by simp) (by simp)⟩

theorem addChild (hst : st.Sound) (hs : st.HasScope s) (className : Option String) :
    (st.addChild s className).2.WellFormed ctx root := by
  have hleads : Leads st (st.addChild s className).2 := .single (.opened className trivial hs)
  exact ⟨h.rooted.addChild hst hs className, (h.every hleads).addChild hs className,
    h.classes_of_cls_eq hleads (by simp) (by simp)⟩

/-- If no scope is changed, it is for the classes to be what they should. -/
theorem of_scopes_eq (hleads : Leads st st') (hscopes : st'.scopes = st.scopes)
    (hclasses : ∀ id, st'.HasClass id →
      st'.Classified ctx (st'.cls id) ∧ (st'.cls id).members.Nodup) :
    st'.WellFormed ctx root := by
  have hread : ∀ t, st'.scope t = st.scope t := scope_of_scopes_eq hscopes
  refine ⟨h.rooted.of_same (by rw [hscopes]) (by simp [hread]) (by simp [hread]), ?_, hclasses⟩
  intro t b hb
  rw [hread t] at hb
  exact h.every hleads t b hb

theorem addClass {info : ClassInfo} (hleads : Leads st (st.addClass info).2)
    (hinfo : st.Classified ctx info) (hnodup : info.members.Nodup) :
    (st.addClass info).2.WellFormed ctx root := by
  refine h.of_scopes_eq hleads rfl fun id hid => ?_
  by_cases hnew : id = (st.addClass info).1
  · rw [hnew, cls_addClass_new]
    exact ⟨hinfo.mono hleads, hnodup⟩
  · rw [cls_addClass_of_ne st hnew]
    have hold : st.HasClass id := by
      unfold HasClass at hid ⊢
      rw [length_classes_addClass] at hid
      have : id.index ≠ st.classes.length := fun e => hnew (ClassId.ext e)
      omega
    exact ⟨(h.classes id hold).1.mono hleads, (h.classes id hold).2⟩

theorem register (id : ClassId) (member : String) :
    (st.modifyClass id (·.put (some member))).WellFormed ctx root := by
  have hleads : Leads st (st.modifyClass id (·.put (some member))) := .single (.put id member)
  refine h.of_scopes_eq hleads rfl fun other hother => ?_
  have hold : st.HasClass other := by
    unfold HasClass at hother ⊢
    rwa [length_classes_modifyClass] at hother
  obtain ⟨hkind, hnodup⟩ := h.classes other hold
  by_cases hsame : other = id
  · subst hsame
    rw [cls_modifyClass_self st _ hold]
    refine ⟨(hkind.putAll [some member]).mono hleads, ?_⟩
    rw [ClassInfo.members_put]
    exact nodup_addNew hnodup _
  · rw [cls_modifyClass_of_ne st _ hsame]
    exact ⟨hkind.mono hleads, hnodup⟩

end Steps

/-! ### Definitions -/

/-- The type of a placeholder is not known. -/
theorem returnType_ne {body : List Stmt} {returns : Option String}
    (hreturns : st.returnType s body = some returns) : returns ≠ some placeholderName := by
  rintro rfl
  unfold returnType at hreturns
  split at hreturns
  · obtain ⟨v, -, hv⟩ := Option.map_eq_some_iff.mp hreturns
    simpa using (Option.filter_eq_some_iff.mp hv).2
  · simp at hreturns

theorem not_mem_baseNames {bases : List Expr} {superclasses : List String}
    (hbases : st.baseNames s bases = some superclasses) : placeholderName ∉ superclasses := by
  obtain ⟨values, -, rfl⟩ := Option.map_eq_some_iff.mp hbases
  intro hmem
  obtain ⟨v, -, hv⟩ := List.mem_filterMap.mp hmem
  simpa using (Option.filter_eq_some_iff.mp hv).2

/-- The scope of a function binds its parameters from the beginning. -/
theorem proper_function {name : String} {params : List Label} {body : List Stmt}
    {returns : Option String} (hs : Stands ctx st s)
    (hreturns : (st.innerWalk s none params body).returnType (st.addChild s none).1 body =
      some returns) :
    (st.innerWalk s none params body).Proper
      (.function ⟨name, returns, params, some (st.addChild s none).1⟩) := by
  have hinner := hs.inner none
  have hbound := fills_bindParams params hinner.has
  have hwalk : Leads (Store.bindParams (st.addChild s none).1 params (st.addChild s none).2)
      (st.innerWalk s none params body) :=
    (hinner.after_bindParams params).writes_walkBody fun _ _ _ _ => trivial
  refine ⟨returnType_ne hreturns, _, rfl, ⟨?_, ?_, ?_⟩, fun p hp => ?_⟩
  · exact hs.hasScope_innerWalk none params body
  · rw [parent_innerWalk hs.sound hs.has]
    exact Option.some_ne_none s
  · exact className_innerWalk hs.sound hs.has none params body
  · refine (hwalk.growth.vars _).subset ?_
    rw [hbound.names, mem_addNew]
    exact .inr hp

/-- A class that has the identity of a body that was walked is one that the script defines. -/
theorem classified_of_body {name : String} {body : List Stmt} {superclasses : List String}
    {c : ClassInfo} (hs : Stands ctx st s) (hname : name ≠ placeholderName)
    (hbases : placeholderName ∉ superclasses)
    (hsame : ((st.innerWalk s (some name) [] body).classOfBody (st.addChild s (some name)).1 name
      superclasses).SameIdentity c) :
    (st.innerWalk s (some name) [] body).Classified ctx c := by
  refine .defined ?_ ?_ hsame.scope (hs.hasScope_innerWalk (some name) [] body) ?_
  · rw [hsame.name]
    exact hname
  · rw [hsame.bases]
    exact hbases
  · rw [hsame.name]
    exact className_innerWalk hs.sound hs.has (some name) [] body

/-- The class at the end of a body, and the receivers that become it. -/
theorem unified {name : String} {bases : List Expr} {body : List Stmt}
    {superclasses : List String} (hs : Stands ctx st s) (hname : name ≠ placeholderName)
    (hmid : (st.innerWalk s (some name) [] body).WellFormed ctx root)
    (hbases : (st.innerWalk s (some name) [] body).baseNames s bases = some superclasses) :
    let mid := st.innerWalk s (some name) [] body
    let inner := (st.addChild s (some name)).1
    let opened := mid.addClass (mid.classOfBody inner name superclasses)
    let found := mid.receivers (mid.scope inner).vars
    ((opened.2.gather opened.1 found).spread opened.1 found).WellFormed ctx root := by
  intro mid inner opened found
  have hleads : Leads mid ((opened.2.gather opened.1 found).spread opened.1 found) :=
    writes_unified (hs.hasScope_innerWalk (some name) [] body) name trivial superclasses
  have hsound : mid.Sound := (hs.after_innerWalk (some name) [] body).sound
  have hold : ∀ p ∈ found, mid.HasClass p := by
    intro p hp
    obtain ⟨b, -, hb⟩ := mem_receivers_iff.mp hp
    exact hb.hasClass
  obtain ⟨hunified, members, hclass⟩ := unified_spread_gather
    (mid.classOfBody inner name superclasses) (nodup_ownMembers (hsound.vars inner).nodup)
    (nodup_receivers _) hold
  -- the class and its receivers are what the body says, and have different members
  have hkind : ∀ c, (mid.classOfBody inner name superclasses).SameIdentity c →
      ((opened.2.gather opened.1 found).spread opened.1 found).Classified ctx c :=
    fun c hsame => (classified_of_body hs hname (not_mem_baseNames hbases) hsame).mono hleads
  have hnodup : (((opened.2.gather opened.1 found).spread opened.1 found).cls
      opened.1).members.Nodup := by
    rw [hunified.members]
    simpa using nodup_firstBy_keys id ((mid.classOfBody inner name superclasses).members ++
      found.flatMap fun p => (mid.cls p).members)
  refine hmid.of_scopes_eq hleads (by simp [opened, mid]) fun id hid => ?_
  by_cases hnew : id = opened.1
  · rw [hnew]
    refine ⟨hkind _ ?_, hnodup⟩
    rw [hclass]
    exact ⟨rfl, rfl, rfl, rfl⟩
  · by_cases hmem : id ∈ found
    · have hfirst := (hmid.classes id (hold id hmem)).2
      refine ⟨hkind _ ?_, ?_⟩
      · rw [hunified.receiver id hmem, hclass]
        exact ⟨rfl, rfl, rfl, rfl⟩
      · rw [hunified.receiver id hmem]
        refine hfirst.append (hnodup.filter _) fun m hm hrest => ?_
        exact absurd hm (by simpa using (List.mem_filter.mp hrest).2)
    · rw [hunified.elsewhere id hnew hmem]
      have hid : mid.HasClass id := by
        have hne : id.index ≠ mid.classes.length := fun e => hnew (ClassId.ext e)
        simp [HasClass, opened] at hid ⊢
        omega
      exact ⟨(hmid.classes id hid).1.mono hleads, (hmid.classes id hid).2⟩

/-! ### Walks -/

/-- A class that is made up from the builtin symbols lists each member once. -/
theorem properValue_of_builtin? {name : String} {info : ClassInfo}
    (hentries : ctx.builtinEntries.Nodup) (hbuiltin : ¬ IsBuiltinName ctx placeholderName)
    (hcontext : (st.scope s).context = ctx) (hinfo : st.builtin? s name = some info) :
    st.ProperValue ctx (.made info) := by
  unfold Store.builtin? builtinMembers at hinfo
  rw [hcontext] at hinfo
  simp only [Option.ite_none_left_eq_some, Option.some.injEq] at hinfo
  obtain ⟨hlisted, rfl⟩ := hinfo
  have hlisted : ctx.listedMembers name ≠ [] := by
    rwa [List.isEmpty_iff] at hlisted
  refine ⟨.builtin ?_ rfl rfl hlisted List.prefix_rfl, ?_⟩
  · rintro rfl
    obtain ⟨member, hmember⟩ := List.exists_mem_of_ne_nil _ hlisted
    obtain ⟨entry, hentry, hafter⟩ := List.mem_filterMap.mp hmember
    exact hbuiltin ⟨by decide, by decide, entry, hentry,
      .inr ⟨member, Text.after?_eq_some_iff.mp hafter⟩⟩
  · refine List.Nodup.map (fun _ _ => Option.some.inj) (hentries.filterMap ?_)
    intro entry other member hentry hother
    rw [Option.mem_def, Text.after?_eq_some_iff] at hentry hother
    rw [hentry, hother]

/-- What an expression yields is proper where everything that is bound is. -/
theorem sources (h : st.WellFormed ctx root) (hentries : ctx.builtinEntries.Nodup)
    (hbuiltin : ¬ IsBuiltinName ctx placeholderName) (hcontext : (st.scope s).context = ctx) :
    st.Sources s (st.ProperValue ctx) where
  unknown := trivial
  host typeName := by
    intro t ht
    simp at ht
  imported name := trivial
  bound := h.bound
  builtin hinfo := properValue_of_builtin? hentries hbuiltin hcontext hinfo
  result := by
    rintro fn typeName ⟨-, t, hscope, hfunction, -⟩ -
    intro u hu
    rw [hscope] at hu
    rwa [← Option.some.inj hu]

/-- Every single thing that a walk does leaves a store well-formed. -/
theorem upholds (ctx : Context) (root : ScopeId) (hentries : ctx.builtinEntries.Nodup)
    (hbuiltin : ¬ IsBuiltinName ctx placeholderName) :
    Upholds ctx
      (fun v => ∀ name bases body, v.stmt = .classDef name bases body → name ≠ placeholderName)
      (WellFormed ctx root) (ProperValue ctx) where
  inferred hs hwf hv := (hwf.sources hentries hbuiltin hs.context).forall_infer hv
  unknown := trivial
  stored hid := hid
  lasts _ hv hleads := hv.mono hleads
  var hs hwf hd hleads := hwf.bindVar hs.has hd hleads
  imported hs hwf := hwf.bindImport hs.has
  registered _ _ _ _ _ hwf := hwf.register _ _
  opened _ _ hs hwf := hwf.addChild hs.sound hs.has _
  made _ hwf hinfo hleads := hwf.addClass hleads hinfo.1 hinfo.2
  parameter hs hclass hparent :=
    ⟨.placeholder rfl rfl rfl rfl ⟨hs, hparent, hclass⟩, List.nodup_nil⟩
  function _ hs _ hreturns := proper_function hs hreturns
  closed hP hs hmid hbases := unified hs (hP _ _ _ rfl) hmid hbases

end WellFormed

end Store

namespace Analysis

open Store

theorem wellFormed_empty (ctx : Context) :
    (empty ctx).store.WellFormed ctx (empty ctx).root where
  rooted := by
    refine ⟨Nat.zero_lt_one, rfl, ?_, ?_, ?_⟩
    · exact fun s hs _ => ScopeId.ext (Nat.lt_one_iff.mp hs)
    · intro s p _ hp
      rcases scope_empty ctx s with e | e <;> simp [e] at hp
    · intro p
      rcases scope_empty ctx p with e | e <;> simp [e]
  bound := by
    intro t b hb
    rcases scope_empty ctx t with e | e <;> simp [e] at hb
  classes id hid := absurd hid (Nat.not_lt_zero _)

theorem wellFormed_ofStatements (ctx : Context) (hentries : ctx.builtinEntries.Nodup)
    (hbuiltin : ¬ IsBuiltinName ctx placeholderName) {body : List Stmt}
    (hnamed : ∀ name bases inner, Stmt.classDef name bases inner ∈ Stmt.orderIn body →
      name ≠ placeholderName) :
    (ofStatements ctx body).store.WellFormed ctx (ofStatements ctx body).root := by
  refine (WellFormed.upholds ctx (empty ctx).root hentries hbuiltin).walkBody body
    (standing_empty ctx fun _ => trivial) (wellFormed_empty ctx) ?_
  intro v hv name bases inner hstmt
  refine hnamed name bases inner ?_
  rw [← hstmt]
  exact stmt_mem_orderIn body v hv

/-- **The scopes of a script are well-formed.**  Whatever the statements are, readable or not: if
none of its classes and none of the builtin names is called like a placeholder, and the builtin
symbols differ, then the scopes form a tree below the outermost one.  A function is bound with a
scope that a function opened and that binds its parameters, and an instance with such a scope or
none.  Every class is a placeholder, a class that a body defines or one that the builtin symbols
list, and has different members. -/
theorem scopeTree_wellFormed (ctx : Context) (hentries : ctx.builtinEntries.Nodup)
    (hbuiltin : ¬ IsBuiltinName ctx placeholderName) {body : List Stmt}
    (hnamed : ∀ name bases inner, Stmt.classDef name bases inner ∈ Stmt.orderIn body →
      name ≠ placeholderName) :
    let a := ofStatements ctx body
    (∀ q, (a.store.scope q).children.count a.root = 0) ∧
    (∀ s, a.store.HasScope s → s ≠ a.root →
      ∃ p, (a.store.scope s).parent = some p ∧ a.store.HasScope p ∧
        ∀ q, (a.store.scope q).children.count s = if q = p then 1 else 0) ∧
    (∀ s, a.store.HasScope s → (a.store.chain s).getLast? = some a.root) ∧
    (∀ s, ∀ b ∈ (a.store.scope s).vars ++ (a.store.scope s).imports, a.store.Proper b.2) ∧
    ∀ id, a.store.HasClass id →
      a.store.Classified ctx (a.store.cls id) ∧ (a.store.cls id).members.Nodup := by
  intro a
  have hstand : Stands ctx a.store a.root :=
    (standing_empty ctx fun _ => trivial).after_walkBody body
  have hwf := wellFormed_ofStatements ctx hentries hbuiltin hnamed
  refine ⟨?_, ?_, ?_, hwf.bound, hwf.classes⟩
  · intro q
    refine List.count_eq_zero_of_not_mem fun hmem => ?_
    have hparent := (hstand.sound.child q _ hmem).2
    rw [hwf.rooted.parent_root] at hparent
    simp at hparent
  · intro s hs hne
    obtain ⟨p, hparent, hcount⟩ := hwf.rooted.count_children hstand.sound hs hne
    exact ⟨p, hparent, Nat.lt_trans (hstand.sound.parent_lt s p hparent) hs, hcount⟩
  · exact fun s hs => hwf.rooted.getLast?_chain hstand.sound hs

/-- A function that returns a builtin class, a name for its result, a name for another builtin
class to which a member is added, and a class with a method that cannot be read to its end. -/
def mixedScript : List Stmt :=
  [ .function "text" (some [some "width"]) [.ret (.name (some "str"))],
    .assign [.mk [.name (some "x")] (some (.call (.name (some "text"))))],
    .assign [.mk [.name (some "kind")] (some (.name (some "str")))],
    .assign [.mk [.member (some "kind") [some "tag"]] (some .integer)],
    .classDef "C" [.name (some "str")]
      [ .function "m" (some [some "self", some "other"])
          [.fault, .assign [.mk [.member (some "self") [some "v"]] (some .fault)]] ] ]

theorem mixedScript_wellFormed :
    let ctx := Completion.builtinContext
    let a := ofStatements ctx mixedScript
    ctx.builtinEntries.Nodup ∧ ¬ IsBuiltinName ctx placeholderName ∧
    (∀ name bases inner, Stmt.classDef name bases inner ∈ Stmt.orderIn mixedScript →
      name ≠ placeholderName) ∧
    (a.store.scope a.root).vars.get? (some "x") = some (.instanceOf "str" (some ⟨1⟩)) ∧
    a.store.Proper (.instanceOf "str" (some ⟨1⟩)) ∧
    a.store.classes.map (fun c => (c.name, c.bases, c.members)) =
      [ ("<unknown>", [], []), ("str", [], [some "join", some "tag"]),
        ("C", ["str"], [some "v", some "m"]), ("<unknown>", [], []),
        ("C", ["str"], [some "m", some "v"]) ] ∧
    ∀ id, a.store.HasClass id →
      a.store.Classified ctx (a.store.cls id) ∧ (a.store.cls id).members.Nodup := by
  intro ctx a
  have hentries : ctx.builtinEntries.Nodup := by decide
  have hbuiltin : ¬ IsBuiltinName ctx placeholderName := by
    show ¬ IsBuiltinName ((empty ctx).store.scope (empty ctx).root).context placeholderName
    rw [← mem_builtinNames_iff]
    decide +kernel
  have hnamed : ∀ name bases inner, Stmt.classDef name bases inner ∈ Stmt.orderIn mixedScript →
      name ≠ placeholderName := by
    intro name bases inner hmem
    simp only [mixedScript, Stmt.orderIn, Stmt.order, List.cons_append, List.nil_append,
      List.append_nil, List.mem_cons, reduceCtorEq, Stmt.classDef.injEq, List.not_mem_nil,
      or_false, false_or] at hmem
    rw [hmem.1]
    decide
  obtain ⟨-, -, -, hbound, hclasses⟩ := scopeTree_wellFormed ctx hentries hbuiltin hnamed
  have hx : (a.store.scope a.root).vars.get? (some "x") = some (.instanceOf "str" (some ⟨1⟩)) := by
    decide +kernel
  refine ⟨hentries, hbuiltin, hnamed, hx, ?_, ?_, hclasses⟩
  · exact hbound _ _ (List.mem_append_left _ (Bindings.mem_of_get? hx))
  · decide +kernel

end Analysis

end ScriptScope
