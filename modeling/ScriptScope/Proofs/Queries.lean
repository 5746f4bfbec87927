import ScriptScope.Proofs.Growth
import ScriptScope.Scope.Render

/-!
# Which scripts answer every question

Questions about names have an answer as long as everything that they come across has a name.  If no
statement of a script binds a target or a parameter without text, then no table, no parameter list
and no list of members ever holds one (`WritesOn.named`), and every question put to any scope is
answered (`Named.answers`).

In readable scripts this is also necessary: a nameless target or parameter ends up in a table, stays
there, and spoils every question about names from its scope (`Analysis.answers_iff`).
-/

namespace ScriptScope

/-! ### Names everywhere -/

/-- A class gets named members if it has such and is given such. -/
theorem ClassInfo.Named.putAll {c : ClassInfo} (hc : c.Named) {members : List Label}
    (hmembers : ∀ m ∈ members, m.isSome = true) : (c.putAll members).Named := by
  intro m hm
  rw [members_putAll, mem_addNew] at hm
  rcases hm with hm | hm
  · exact hc m hm
  · exact hmembers m hm

namespace Store

/-- Terms on which the functions that are bound have named parameters. -/
def namedTerms : Terms :=
  ⟨fun fn => ∀ p ∈ fn.params, p.isSome = true, fun _ _ => True⟩

/-- A store in which everything that has a label has a name. -/
structure Named (st : Store) : Prop where
  tables : st.Every fun b => b.1.isSome = true
  functions : st.Functions namedTerms.function
  members : ∀ id, (st.cls id).Named

variable {may : ScopeId → Prop} {terms : Terms} {st st' : Store} {s : ScopeId}

/-- Classes that are unchanged or have named members are fine. -/
theorem Named.modifyClass (h : st.Named) {id : ClassId} {f : ClassInfo → ClassInfo}
    (hf : (f (st.cls id)).Named) (q : ClassId) : ((st.modifyClass id f).cls q).Named := by
  by_cases hq : q = id
  · subst hq
    by_cases hhas : st.HasClass q
    · rwa [cls_modifyClass_self st f hhas]
    · have hnone : ¬ (st.modifyClass q f).HasClass q := by
        simpa only [HasClass, length_classes_modifyClass] using hhas
      rw [cls_of_not_hasClass hnone]
      simp [ClassInfo.Named, default]
  · rw [cls_modifyClass_of_ne st f hq]
    exact h.members q

theorem Named.addClass (h : st.Named) {c : ClassInfo} (hc : c.Named) (q : ClassId) :
    ((st.addClass c).2.cls q).Named := by
  by_cases hq : q = (st.addClass c).1
  · rwa [hq, cls_addClass_new]
  · rw [cls_addClass_of_ne st hq]
    exact h.members q

/-- The members of a class that is closed are names of its body. -/
theorem Named.ownMembers (h : st.Named) (t : ScopeId) :
    ∀ m ∈ ownMembers (st.scope t).vars, m.isSome = true := by
  intro m hm
  obtain ⟨b, hb, rfl⟩ := List.mem_map.mp hm
  exact h.tables t b (List.mem_append_left _ (List.mem_of_mem_filter hb))

theorem Write.named (h : Write may (fun label => label.isSome = true) namedTerms st st')
    (hst : st.Named) : st'.Named := by
  have hfunctions := h.functions hst.functions
  cases h with
  | var allowed bound has held value =>
    exact ⟨hst.tables.bindVar has bound, hfunctions, hst.members⟩
  | imported allowed bound has =>
    exact ⟨hst.tables.bindImport has bound, hfunctions, hst.members⟩
  | opened className allowed has =>
    exact ⟨hst.tables.addChild has className, hfunctions, hst.members⟩
  | made stands named => exact ⟨hst.tables, hfunctions, hst.addClass named⟩
  | @closed inner name bases has =>
    exact ⟨hst.tables, hfunctions, hst.addClass (hst.ownMembers inner)⟩
  | grown id known =>
    refine ⟨hst.tables, hfunctions, hst.modifyClass ?_⟩
    refine (hst.members id).putAll fun m hm => ?_
    rcases known m hm with hnamed | ⟨p, hp⟩
    · exact hnamed
    · exact hst.members p m hp
  | @unified p id isOpen has taker =>
    exact ⟨hst.tables, hfunctions,
      hst.modifyClass ((hst.members p).putAll (hst.members id))⟩

/-- Whoever binds names and functions with named parameters keeps everything named. -/
theorem WritesOn.named (h : WritesOn may (fun label => label.isSome = true) namedTerms st st')
    (hst : st.Named) : st'.Named := by
  induction h with
  | refl => exact hst
  | tail _ hwrite ih => exact hwrite.named ih

/-! ### Questions and their answers -/

/-- Every question that is put to a scope has an answer.  Nothing is said of finding a name, of the
variables in sight and of the members of a class, for which there is always one. -/
structure Answers (st : Store) (s : ScopeId) : Prop where
  startingWith : ∀ start, (st.namesStartingWith s start).isSome = true
  typedStartingWith : ∀ start, (st.typedNamesStartingWith s start).isSome = true
  ofType : ∀ target hostTarget, (st.varsOfType s target hostTarget).isSome = true
  dumped : (st.dump s).isSome = true

/-- A table is a list of names if and only if no binding lacks one. -/
theorem isSome_named?_iff {table : Bindings} :
    (named? table).isSome = true ↔ ∀ b ∈ table, b.1.isSome = true := by
  unfold named?
  rw [isSome_mapM_iff]
  simp only [Option.isSome_map]

/-- Whether names can be told depends on the bindings in sight, not on what they start with. -/
theorem isSome_namesStartingWith_iff (start : String) :
    (st.namesStartingWith s start).isSome = true ↔
      ∀ b ∈ st.bindingsInSight s, b.1.isSome = true := by
  unfold namesStartingWith
  rw [Option.isSome_map, isSome_named?_iff]

/-- Labels can be joined if each is a name. -/
theorem isSome_joined {labels : List Label} (h : ∀ label ∈ labels, label.isSome = true) :
    (Label.joined labels).isSome = true := by
  unfold Label.joined
  rw [Option.isSome_map, isSome_mapM_iff]
  exact h

namespace Named

variable (h : st.Named)

include h

/-- What is in sight is bound somewhere. -/
theorem bindingsInSight (s : ScopeId) : ∀ b ∈ st.bindingsInSight s, b.1.isSome = true := by
  intro b hb
  obtain ⟨t, -, hb⟩ := List.mem_flatMap.mp hb
  exact h.tables t b hb

theorem allVars (s : ScopeId) : ∀ b ∈ st.allVars s, b.1.isSome = true := by
  intro b hb
  obtain ⟨t, -, hb⟩ := List.mem_flatMap.mp (mem_of_mem_firstByFrom _ _ _ _ hb)
  exact h.tables t b (List.mem_append_left _ hb)

/-- Whatever a table binds can be described. -/
theorem isSome_describe {t : ScopeId} {b : Label × Descriptor}
    (hb : b ∈ (st.scope t).vars ++ (st.scope t).imports) : (st.describe b.2).isSome = true := by
  obtain ⟨label, d⟩ := b
  cases d with
  | function fn =>
    show fn.describe.isSome = true
    unfold Function.describe
    rw [Option.isSome_map]
    exact isSome_joined (h.functions t _ hb fn rfl)
  | script id =>
    show (st.cls id).describe.isSome = true
    unfold ClassInfo.describe
    rw [Option.isSome_map]
    exact isSome_joined (h.members id)
  | unknown => rfl
  | instanceOf typeName scope => rfl
  | static name => rfl

theorem isSome_tableLines (lead : String) {t : ScopeId} {table : Bindings}
    (htable : ∀ b ∈ table, b ∈ (st.scope t).vars ++ (st.scope t).imports) :
    (st.tableLines lead table).isSome = true := by
  unfold tableLines
  rw [isSome_mapM_iff]
  intro b hb
  rw [Option.isSome_map]
  exact h.isSome_describe (htable b hb)

omit h in
/-- A forest is listed if each of its trees is. -/
theorem isSome_forestLines {trees : List ScopeTree} {depth : Nat}
    (htrees : ∀ tree ∈ trees, (st.treeLines depth tree).isSome = true) :
    (st.forestLines depth trees).isSome = true := by
  induction trees with
  | nil => rfl
  | cons tree rest ih =>
    rw [List.forall_mem_cons] at htrees
    obtain ⟨first, hfirst⟩ := Option.isSome_iff_exists.mp htrees.1
    obtain ⟨others, hothers⟩ := Option.isSome_iff_exists.mp (ih htrees.2)
    rw [forestLines, hfirst, hothers]
    rfl

/-- A scope is listed if what is below it is. -/
theorem isSome_treeLines_mk (s : ScopeId) {trees : List ScopeTree} {depth : Nat}
    (htrees : (st.forestLines (depth + 1) trees).isSome = true) :
    (st.treeLines depth (.mk (st.scope s).className (st.scope s).imports (st.scope s).vars
      trees)).isSome = true := by
  have himports : ∀ b ∈ (st.scope s).imports, b ∈ (st.scope s).vars ++ (st.scope s).imports :=
    fun b hb => List.mem_append_right _ hb
  have hvars : ∀ b ∈ (st.scope s).vars, b ∈ (st.scope s).vars ++ (st.scope s).imports :=
    fun b hb => List.mem_append_left _ hb
  obtain ⟨imported, himported⟩ := Option.isSome_iff_exists.mp (h.isSome_tableLines
    (String.ofList (List.replicate (2 * depth) ' ') ++ "  import ") himports)
  obtain ⟨assigned, hassigned⟩ := Option.isSome_iff_exists.mp (h.isSome_tableLines
    (String.ofList (List.replicate (2 * depth) ' ') ++ "  ") hvars)
  obtain ⟨inner, hinner⟩ := Option.isSome_iff_exists.mp htrees
  unfold treeLines
  dsimp only
  rw [himported, hassigned, hinner]
  rfl

/-- A scope is listed with what is below it, down to any level. -/
theorem isSome_treeLines (bound : Nat) (s : ScopeId) (depth : Nat) :
    (st.treeLines depth (st.treeFrom bound s)).isSome = true := by
  induction bound generalizing s depth with
  | zero => exact h.isSome_treeLines_mk s rfl
  | succ bound ih =>
    refine h.isSome_treeLines_mk s (isSome_forestLines fun tree htree => ?_)
    obtain ⟨c, -, rfl⟩ := List.mem_map.mp htree
    exact ih c (depth + 1)

/-- If everything is named, every question is answered. -/
theorem answers (s : ScopeId) : Answers st s where
  startingWith start := (isSome_namesStartingWith_iff start).mpr (h.bindingsInSight s)
  typedStartingWith start := by
    unfold typedNamesStartingWith
    rw [Option.isSome_map, isSome_named?_iff]
    exact h.bindingsInSight s
  ofType target hostTarget := by
    unfold varsOfType
    rw [Option.isSome_map, isSome_named?_iff]
    exact h.allVars s
  dumped := by
    unfold dump tree
    rw [Option.isSome_map]
    exact h.isSome_treeLines st.scopes.length s 0

end Named

end Store

/-! ### Nameless targets and parameters -/

mutual

/-- A control statement binds its targets in the scope it stands in. -/
theorem Control.targets_subset_locals (parts : Control) : parts.targets ⊆ parts.locals := by
  match parts with
  | .mk targets parts =>
    rw [Control.targets, Control.locals]
    exact List.append_subset.mpr ⟨List.subset_append_left ..,
      List.subset_append_of_subset_right _ (Part.targetsIn_subset_localsIn parts)⟩

theorem Part.targetsIn_subset_localsIn (parts : List Part) :
    Part.targetsIn parts ⊆ Part.localsIn parts := by
  match parts with
  | [] => exact List.Subset.refl _
  | .block body :: rest =>
    exact List.subset_append_of_subset_right _ (Part.targetsIn_subset_localsIn rest)
  | .clause inner :: rest =>
    rw [Part.targetsIn, Part.localsIn]
    exact List.append_subset.mpr
      ⟨List.subset_append_of_subset_left _ (Control.targets_subset_locals inner),
        List.subset_append_of_subset_right _ (Part.targetsIn_subset_localsIn rest)⟩

end

/-- A statement binds nothing nameless by an import. -/
theorem Stmt.none_mem_locals_or_params {ctx : Context} {stmt : Stmt}
    (h : none ∈ stmt.binds ctx) : none ∈ stmt.locals ∨
      ∃ name params body, stmt = .function name (some params) body ∧ none ∈ params := by
  cases stmt with
  | assign items => exact .inl h
  | control parts => exact .inl (parts.targets_subset_locals h)
  | function name params body =>
    cases params with
    | none => simp [Stmt.binds] at h
    | some params =>
      rcases List.mem_cons.mp h with h | h
      · simp at h
      · exact .inr ⟨name, params, body, rfl, h⟩
  | importNames items =>
    obtain ⟨item, -, h⟩ := List.mem_flatMap.mp h
    unfold ImportItem.bound at h
    split at h <;> simp at h
  | importFrom source wildcard items =>
    rcases source with _ | _ | text
    · simp [Stmt.binds] at h
    · simp [Stmt.binds] at h
    · cases wildcard with
      | true => simp [Stmt.binds] at h
      | false =>
        obtain ⟨item, -, h⟩ := List.mem_flatMap.mp h
        unfold ImportItem.boundFrom at h
        split at h <;> simp at h
  | classDef name bases body => simp [Stmt.binds] at h
  | decorated definition => simp [Stmt.binds] at h
  | ret value => simp [Stmt.binds] at h
  | other => simp [Stmt.binds] at h
  | fault => simp [Stmt.binds] at h

namespace Store

variable {ctx ctx' : Context}

/-- What a readable statement binds without a name stands in a table afterwards. -/
theorem Standing.exists_nameless {st : Store} {s : ScopeId} {stmt : Stmt}
    (h : Standing ctx (fun _ => True) st s) (hread : stmt.readable = true)
    (hnone : none ∈ stmt.binds ctx') :
    ∃ t, none ∈ ((walkStmt s stmt st).store.scope t).vars.names := by
  rcases Stmt.none_mem_locals_or_params hnone with hlocal | ⟨name, params, body, rfl, hparam⟩
  · refine ⟨s, ?_⟩
    rw [(draws_walkStmt stmt h.sound h.has hread).names, mem_addNew]
    exact .inr hlocal
  -- a parameter is bound in the scope of the function before its body is walked
  · have hinner := h.inner none
    have hbound := hinner.after_bindParams params
    have hbody : Writes (fun _ => True) (fun _ => True) _ (st.innerWalk s none params body) :=
      hbound.writes_walkBody fun _ _ _ _ => trivial
    have hend : Writes (fun _ => True) (fun _ => True) (st.innerWalk s none params body)
        (walkStmt s (.function name (some params) body) st).store :=
      (h.after_innerWalk none params body).free.writes_functionEnd (hbound.after hbody).has trivial
        (Visit.meets_free _)
    refine ⟨(st.addChild s none).1, ((WritesOn.growth (hbody.trans hend)).vars _).subset ?_⟩
    rw [(fills_bindParams params hinner.has).names, mem_addNew]
    exact .inr hparam

/-- A scope that holds something nameless cannot tell the names in sight. -/
theorem not_answers_of_nameless {st : Store} (hst : st.Sound) {t : ScopeId}
    (h : none ∈ (st.scope t).vars.names) : st.HasScope t ∧ ¬ Answers st t := by
  have hhas : st.HasScope t := by
    by_contra hno
    rw [scope_of_not_hasScope hno] at h
    simp [Bindings.names] at h
  refine ⟨hhas, fun hanswers => ?_⟩
  obtain ⟨b, hb, hnone⟩ := List.mem_map.mp h
  have hnamed := (isSome_namesStartingWith_iff "").mp (hanswers.startingWith "") b
    (List.mem_flatMap.mpr ⟨t, mem_chain_self hst hhas, List.mem_append_left _ hb⟩)
  rw [hnone] at hnamed
  exact absurd hnamed (by simp)

end Store

/-! ### Scripts -/

namespace Analysis

open Store

theorem named_empty (ctx : Context) : (empty ctx).store.Named := by
  refine ⟨?_, ?_, ?_⟩
  · intro t b hb
    rcases scope_empty ctx t with e | e <;> simp [e] at hb
  · intro t b hb
    rcases scope_empty ctx t with e | e <;> simp [e] at hb
  · simp [ClassInfo.Named, empty, addRoot, cls, default]

/-- If no statement binds anything nameless, nothing is nameless in the scopes that are built. -/
theorem named_ofStatements (ctx : Context) {body : List Stmt}
    (h : ∀ x ∈ Stmt.orderIn body, none ∉ x.binds ctx) : (ofStatements ctx body).store.Named := by
  have hstart : Keeping ctx (fun _ => True) namedTerms (empty ctx).store (empty ctx).root :=
    ⟨standing_empty ctx fun _ => trivial, (named_empty ctx).functions⟩
  have hlabel : ∀ x ∈ Stmt.orderIn body, ∀ label ∈ x.binds ctx, label.isSome = true := by
    intro x hx label hlabel
    exact Option.isSome_iff_ne_none.mpr fun e => h x hx (e ▸ hlabel)
  refine WritesOn.named (Keeping.writes_walkBody body hstart hlabel fun v hv => ?_)
    (named_empty ctx)
  refine ⟨?_, fun _ _ _ => trivial⟩
  rintro fn ⟨inner, hstmt, -⟩ p hp
  have hmem := stmt_mem_orderIn body v hv
  rw [hstmt] at hmem
  exact hlabel _ hmem p (List.mem_cons_of_mem _ hp)

/-- **Which scripts answer every question.**  In a tree without unreadable nodes, all scopes answer
all questions about names and can be listed, whatever the context knows, if and only if no statement
binds a target or a parameter that has no text. -/
theorem answers_iff (ctx : Context) {root : Node} (hread : root.readable = true) :
    (∀ s, (ofStatements ctx (Stmt.ofModule root)).store.HasScope s →
      Answers (ofStatements ctx (Stmt.ofModule root)).store s) ↔
    ∀ x ∈ Stmt.orderIn (Stmt.ofModule root), none ∉ x.binds ctx := by
  constructor
  · intro hanswers x hx hnone
    have hreadable := Stmt.allReadable_ofModule hread
    have hstand : Standing ctx (fun _ => True) (empty ctx).store (empty ctx).root :=
      standing_empty ctx fun _ => trivial
    -- the walk comes to the statement, and what it binds stays to the end
    have hall := Standing.exhausts_visitsIn (Stmt.ofModule root) hstand hreadable
    rw [← hall.stmts] at hx
    obtain ⟨v, hv, rfl⟩ := List.mem_map.mp hx
    obtain ⟨t, ht⟩ := (Standing.of_mem_visitsIn _ hstand v hv).exists_nameless
      (Stmt.readable_of_mem_orderIn _ hreadable _ (stmt_mem_orderIn _ v hv)) hnone
    have hpasses := Keeping.passes_visitsIn _ hstand.free (fun w _ => w.meets_free) v hv
    obtain ⟨hhas, hno⟩ := not_answers_of_nameless (hstand.after_walkBody _).sound
      ((hpasses.after.growth.vars t).subset ht)
    exact hno (hanswers t hhas)
  · intro h s _
    exact (named_ofStatements ctx h).answers s

/-- The tree of `target = value`. -/
def assignmentTree (target value : Node) : Node :=
  { kind := .module, children :=
    [{ kind := .expressionStatement, children :=
      [{ kind := .assignment, children :=
        [{ target with role := some .left }, { value with role := some .right }] }] }] }

/-- A value without text does no harm. -/
theorem answers_namelessValue :
    let root := assignmentTree { kind := .identifier, text := "x" } { kind := .identifier }
    root.readable = true ∧ ∀ s, (ofStatements {} (Stmt.ofModule root)).store.HasScope s →
      Answers (ofStatements {} (Stmt.ofModule root)).store s := by
  intro root
  have hread : root.readable = true := by decide
  exact ⟨hread, (answers_iff {} hread).mpr (by decide)⟩

/-- A target without text does: the tree holds no error and can be read, and yet the names in sight
of its scope cannot be told. -/
theorem not_answers_namelessTarget :
    let root := assignmentTree { kind := .identifier } { kind := .integer, text := "1" }
    let a := ofScript {} false (.tree root)
    root.readable = true ∧ root.hasError = false ∧ a.store.HasScope a.root ∧
      a.store.namesStartingWith a.root "zz" = none := by
  decide +kernel

end Analysis

end ScriptScope
