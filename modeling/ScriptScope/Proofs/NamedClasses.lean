import Mathlib.Data.List.Permutation
import ScriptScope.Proofs.Lookups
import ScriptScope.Proofs.Outline
import ScriptScope.Proofs.Unification

/-!
# Classes known by name

A class remembers its superclasses by name, and a function remembers by name what it returns.  The
name is looked up again whenever members are asked for: that of a superclass from around the class,
that of a result from the scope of the function.

The name leads back to the class it was taken from exactly if, when the statement ends, it is bound
to this class where it will be looked up, and the statement does not itself bind it to something
else (`resolves_iff_visible`).  A class that is reached through another, as in `Outer.Inner`, or
under a second name, is not found again (`not_resolves_nested`).
-/

namespace ScriptScope

/-- A class that a definition gave a name. -/
def ClassInfo.IsDefined (c : ClassInfo) : Prop :=
  c.name ≠ "" ∧ c.name ≠ placeholderName

instance (c : ClassInfo) : Decidable c.IsDefined :=
  inferInstanceAs (Decidable (_ ∧ _))

namespace Store

variable {st : Store} {s : ScopeId} {name : String}

/-! ### Superclasses -/

/-- What a class statement leaves, once its body is walked: a new class of the name, standing in the
scope of the body and naming the superclasses.  No class that has a name already is changed. -/
theorem exists_classEnd {bases : List Expr} {body : List Stmt} {superclasses : List String}
    (hmid : (st.innerWalk s (some name) [] body).Sound)
    (hbases : (st.innerWalk s (some name) [] body).baseNames s bases = some superclasses) :
    let mid := st.innerWalk s (some name) [] body
    let out := walkStmt s (.classDef name bases body) st
    ∃ c params members, ¬ mid.HasClass c ∧ out.completed = true ∧
      out.store.scopes = (mid.bindVar s (some name) (.script c)).scopes ∧
      out.store.cls c =
        ⟨name, superclasses, params, members, some (st.addChild s (some name)).1⟩ ∧
      ∀ q, mid.HasClass q → (mid.cls q).isPlaceholder = false → out.store.cls q = mid.cls q := by
  intro mid out
  obtain ⟨c, members, hnew, hcompleted, hscopes, hclass, hunified⟩ :=
    exists_unified_classEnd hmid hbases
  refine ⟨c, _, members, hnew, hcompleted, hscopes, hclass, fun q hq hplaceholder => ?_⟩
  refine hunified.elsewhere q ?_ fun hmem => ?_
  · rintro rfl
    exact hnew hq
  · obtain ⟨b, -, hb⟩ := mem_receivers_iff.mp hmem
    rw [hb.isPlaceholder] at hplaceholder
    exact Bool.noConfusion hplaceholder

/-- The name of a class is among the names that its use as a superclass gives. -/
theorem mem_baseNames {bases : List Expr} {superclasses : List String} {e : Expr} {id : ClassId}
    (h : st.baseNames s bases = some superclasses) (he : e ∈ bases)
    (hid : st.infer s e = some (.held (.script id))) (hdefined : (st.cls id).IsDefined) :
    (st.cls id).name ∈ superclasses := by
  obtain ⟨values, hvalues, rfl⟩ := Option.map_eq_some_iff.mp h
  have hmem : Value.held (.script id) ∈ values := by
    obtain ⟨i, hi, rfl⟩ := List.mem_iff_getElem.mp he
    have hall := mapM_eq_some_iff.mp hvalues
    have hi' : i < values.length := hall.length_eq ▸ hi
    have hget := List.forall₂_iff_get.mp hall
    have hvalue := hget.2 i hi hi'
    rw [List.get_eq_getElem, List.get_eq_getElem, hid] at hvalue
    exact Option.some.inj hvalue ▸ List.getElem_mem hi'
  refine List.mem_filterMap.mpr ⟨_, hmem, ?_⟩
  rw [valueType, typeName, Option.filter_some, decide_eq_true hdefined.2]
  rfl

/-- A class that was used as a superclass is remembered by its name.  `mid` is the store when the
body of the new class `c` was walked, and `after` is the store when the class statement has
ended. -/
structure SuperclassByName (mid after : Store) (s : ScopeId) (name : String) (c id : ClassId) :
    Prop where
  unchanged : after.cls id = mid.cls id
  listed : (mid.cls id).name ∈ (after.cls c).bases
  /-- The name leads back to the class if the scope around binds it, and not to the new class. -/
  resolves_iff : after.scriptSuperclass? (after.cls c) (mid.cls id).name = some (.script id) ↔
    (mid.cls id).name ≠ name ∧ mid.find s (some (mid.cls id).name) = .held (.script id)
  /-- If it does, and the host does not know the name, then the new class offers whatever the class
  offers, unless a class that a lookup makes up is passed over because an address comes back. -/
  inherits : ∀ ctx : Context, ctx.reflect (mid.cls id).name = none →
    after.scriptSuperclass? (after.cls c) (mid.cls id).name = some (.script id) →
    ∀ heap heap' n, n ∈ (classMembers ctx after (.script id) heap).map Entry.name →
      n ∈ (classMembers ctx after (.script c) heap').map Entry.name ∨
        Hides ctx after (.script c) heap' n ∧
          ¬ KeepsApart (stops ctx after (.script c) heap')

/-- A class offers what the classes it extends offer, unless it is hidden. -/
theorem mem_names_of_extends {ctx : Context} {c id : ClassId} {heap heap' : Heap} {n : Label}
    (h : Extends ctx st (.script c) (.script id))
    (hn : n ∈ (classMembers ctx st (.script id) heap).map Entry.name) :
    n ∈ (classMembers ctx st (.script c) heap').map Entry.name ∨
      Hides ctx st (.script c) heap' n ∧ ¬ KeepsApart (stops ctx st (.script c) heap') := by
  obtain ⟨a, hreach, hoffer⟩ := exists_offer_of_mem_names (.stored id) hn
  refine (mem_names_or_hides (.stored c) ⟨a, .head h hreach, hoffer⟩).imp_right fun hhides => ?_
  exact ⟨hhides, fun happart => not_hides_of_keepsApart (.stored c) happart hhides⟩

/-- What a superclass name stands for: it is looked up in the scope around the class. -/
theorem scriptSuperclass?_eq {c : ClassInfo} {inner : ScopeId} (hscope : c.scope = some inner)
    (hparent : (st.scope inner).parent = some s) (base : String) :
    st.scriptSuperclass? c base = ancestorOf? (st.find s (some base)) := by
  unfold scriptSuperclass? home?
  rw [hscope, Option.map_some, hparent, Option.getD_some, Option.map_some]
  cases st.find s (some base) with
  | made info => rfl
  | held d => cases d <;> rfl

theorem ancestorOf?_eq_script_iff {v : Value} {id : ClassId} :
    ancestorOf? v = some (.script id) ↔ v = .held (.script id) := by
  unfold ancestorOf?
  split <;> simp_all

/-- A class statement whose superclasses have values ends with a new class bound to its name, and
this class remembers every superclass that has a name by its name. -/
theorem exists_superclassByName (hst : st.Sound) (hs : st.HasScope s) {bases : List Expr}
    {body : List Stmt}
    (hvalues : ∀ b ∈ bases, ∃ v, (st.innerWalk s (some name) [] body).infer s b = some v) :
    let mid := st.innerWalk s (some name) [] body
    let out := walkStmt s (.classDef name bases body) st
    out.completed = true ∧ ∃ c, ¬ mid.HasClass c ∧
      out.store.find s (some name) = .held (.script c) ∧
      ∀ e ∈ bases, ∀ id, mid.infer s e = some (.held (.script id)) → (mid.cls id).IsDefined →
        SuperclassByName mid out.store s name c id := by
  intro mid out
  have hstand : Standing (st.scope s).context (fun _ => True) st s :=
    ⟨hst, hs, rfl, trivial, fun _ _ => trivial⟩
  have hmid : Standing (st.scope s).context (fun _ => True) mid s :=
    hstand.after_innerWalk (some name) [] body
  obtain ⟨superclasses, hbases⟩ : ∃ superclasses, mid.baseNames s bases = some superclasses := by
    obtain ⟨values, h⟩ := exists_mapM_eq_some hvalues
    exact ⟨_, by rw [baseNames, h]; rfl⟩
  obtain ⟨c, params, members, hnew, hcompleted, hscopes, hclass, hold⟩ :=
    exists_classEnd hmid.sound hbases
  have hfind : ∀ label, out.store.find s label =
      (mid.bindVar s (some name) (.script c)).find s label :=
    find_of_scopes_eq hscopes s
  -- the class is bound where it stands
  have hbound : out.store.find s (some name) = .held (.script c) := by
    rw [hfind]
    apply find_of_binding?
    unfold binding?
    rw [chain_bindVar, chain_eq hmid.sound hmid.has, List.findSome?_cons,
      lookup?_bindVar_self hmid.has]
  refine ⟨hcompleted, c, hnew, hbound, ?_⟩
  intro e he id hid hdefined
  have hhas : mid.HasClass id := hmid.sound.holdsValue_infer hmid.has hid
  have hlisted : (mid.cls id).name ∈ (out.store.cls c).bases := by
    rw [hclass]
    exact mem_baseNames hbases he hid hdefined
  have hparent : (out.store.scope (st.addChild s (some name)).1).parent = some s := by
    rw [scope_of_scopes_eq hscopes, parent_bindVar]
    exact parent_innerWalk hst hs (some name) [] body
  have hresolves : out.store.scriptSuperclass? (out.store.cls c) (mid.cls id).name =
      ancestorOf? (out.store.find s (some (mid.cls id).name)) :=
    scriptSuperclass?_eq (by rw [hclass]) hparent _
  refine ⟨?_, hlisted, ?_, ?_⟩
  · refine hold id hhas ?_
    unfold ClassInfo.isPlaceholder
    exact decide_eq_false hdefined.2
  · rw [hresolves, ancestorOf?_eq_script_iff]
    by_cases hname : (mid.cls id).name = name
    -- the statement has bound the name to the new class
    · rw [hname, hbound]
      constructor
      · intro heq
        simp only [Value.held.injEq, Descriptor.script.injEq] at heq
        exact absurd (heq ▸ hhas) hnew
      · exact fun h => absurd rfl h.1
    · have hne : some (mid.cls id).name ≠ some name := fun e => hname (Option.some.inj e)
      rw [hfind, find_bindVar_of_ne hne]
      exact ⟨fun h => ⟨hname, h⟩, fun h => h.2⟩
  · intro ctx hhost hsuper
    exact fun _ _ _ => mem_names_of_extends ⟨_, _, rfl, hlisted, hhost, hsuper⟩

/-! ### Results -/

/-- A class whose instance a function returns is remembered by its name.  `mid` is the store when
the body of the function was walked, in the scope `inner`, and `after` is the store when the
function is bound. -/
structure ResultByName (mid after : Store) (s inner : ScopeId) (name : String) (id : ClassId) :
    Prop where
  unchanged : after.cls id = mid.cls id
  returns : ∃ fn : Function, after.find s (some name) = .held (.function fn) ∧
    fn.returns = some (mid.cls id).name ∧ fn.scope = some inner
  /-- The name leads back to the class if the scope of the function binds it or sees it, and then
  not as the name of the function. -/
  resolves_iff : after.find inner (some (mid.cls id).name) = .held (.script id) ↔
    mid.find inner (some (mid.cls id).name) = .held (.script id) ∧
      ((mid.cls id).name ≠ name ∨ (mid.scope inner).lookup? (some (mid.cls id).name) ≠ none)
  /-- If it does, and the host does not know the name, then a call has the members of the class. -/
  result : ∀ ctx : Context, ctx.reflect (mid.cls id).name = none →
    after.find inner (some (mid.cls id).name) = .held (.script id) →
    ∃ v, after.infer s (.call (.name (some name))) = some v ∧
      ∀ heap, members ctx after v heap = members ctx after (.held (.script id)) heap

/-- The members of an instance are those of the class that its type name leads to. -/
theorem instanceMembers_of_find {ctx : Context} {typeName : String} {id : ClassId}
    (hhost : ctx.reflect typeName = none) (hfind : st.find s (some typeName) = .held (.script id))
    (heap : Heap) : instanceMembers ctx st typeName (some s) heap =
      classMembers ctx st (.script id) heap := by
  unfold instanceMembers
  rw [hhost, Option.bind_some, hfind]
  rfl

/-- Where the name of the function hides a class from its own scope. -/
theorem find_innerBindVar_iff (hst : st.Sound) {inner : ScopeId} (hinner : st.HasScope inner)
    (hparent : (st.scope inner).parent = some s) {fn : Function} (hfn : fn.scope = some inner)
    {base : String} {id : ClassId} :
    (st.bindVar s (some name) (.function fn)).find inner (some base) = .held (.script id) ↔
      st.find inner (some base) = .held (.script id) ∧
        (base ≠ name ∨ (st.scope inner).lookup? (some base) ≠ none) := by
  by_cases hname : base = name
  · subst hname
    have hlt := hst.parent_lt inner s hparent
    have hs : st.HasScope s := Nat.lt_trans hlt hinner
    have hne : inner ≠ s := fun e => Nat.lt_irrefl _ (e ▸ hlt)
    have hsound := hst.bindVar (some base) hs (d := .function fn) ⟨inner, hfn, hinner⟩
    have hhas : ∀ t, st.HasScope t → (st.bindVar s (some base) (.function fn)).HasScope t := by
      intro t ht
      simpa only [HasScope, length_scopes_bindVar] using ht
    rw [find_eq_script_iff, find_eq_script_iff, binding?_eq hsound (hhas _ hinner),
      binding?_eq hst hinner, scope_bindVar_of_ne st _ _ hne, hparent, Option.bind_some,
      Option.bind_some, binding?_eq hsound (hhas _ hs), lookup?_bindVar_self hs, Option.some_or]
    cases (st.scope inner).lookup? (some base) with
    | some d => simp
    | none => simp
  · have hne : some base ≠ some name := fun e => hname (Option.some.inj e)
    rw [find_bindVar_of_ne hne]
    exact ⟨fun h => ⟨h, .inl hname⟩, fun h => h.1⟩

/-- A function that ends by returning a value returns its type. -/
theorem returnType_of_getLast? {body : List Stmt} {e : Expr}
    (hlast : body.getLast? = some (.ret e)) : st.returnType s body =
      (st.infer s e).map (fun v => (st.valueType v).filter (· ≠ placeholderName)) := by
  unfold returnType
  rw [hlast]

/-- A function that ends by returning an instance of a class that has a name ends with its own name
bound, and remembers the class by its name. -/
theorem completed_resultByName (hst : st.Sound) (hs : st.HasScope s) {params : List Label}
    {body : List Stmt} {e : Expr} {id : ClassId} (hlast : body.getLast? = some (.ret e))
    (hid : (st.innerWalk s none params body).infer (st.addChild s none).1 e =
      some (.held (.script id)))
    (hdefined : ((st.innerWalk s none params body).cls id).IsDefined) :
    let mid := st.innerWalk s none params body
    let out := walkStmt s (.function name (some params) body) st
    out.completed = true ∧
      ResultByName mid out.store s (st.addChild s none).1 name id := by
  intro mid out
  set inner := (st.addChild s none).1
  replace hid : mid.infer inner e = some (.held (.script id)) := hid
  replace hdefined : (mid.cls id).IsDefined := hdefined
  set fn : Function := ⟨name, some (mid.cls id).name, params, some inner⟩ with hfn
  have hstand : Standing (st.scope s).context (fun _ => True) st s :=
    ⟨hst, hs, rfl, trivial, fun _ _ => trivial⟩
  have hmid : Standing (st.scope s).context (fun _ => True) mid s :=
    hstand.after_innerWalk none params body
  have hwrites := writes_inner hst hs none params body
  have hinner : mid.HasScope inner := hwrites.change.hasScope (by simp [HasScope, inner])
  have hparent : (mid.scope inner).parent = some s := parent_innerWalk hst hs none params body
  -- the class has a name, so this is what the function returns
  have hreturns : mid.returnType inner body = some (some (mid.cls id).name) := by
    rw [returnType_of_getLast? hlast, hid, Option.map_some, valueType, typeName, Option.filter_some,
      decide_eq_true hdefined.2]
    rfl
  have hout : out = .done (mid.bindVar s (some name) (.function fn)) := by
    show walkStmt s (.function name (some params) body) st = _
    rw [walkStmt_function_eq, hreturns]
  have hbound : out.store.find s (some name) = .held (.function fn) := by
    rw [hout]
    exact find_bindVar_self hmid.sound hmid.has ⟨inner, rfl, hinner⟩
  refine ⟨by rw [hout]; rfl, by rw [hout]; rfl, ⟨fn, hbound, rfl, rfl⟩, ?_, ?_⟩
  · rw [hout]
    exact find_innerBindVar_iff hmid.sound hinner hparent rfl
  · intro ctx hhost hfind
    refine ⟨.held (.instanceOf (mid.cls id).name (some inner)), ?_, ?_⟩
    · rw [infer, infer, hbound, Option.map_some, resultOf, hfn]
      exact congrArg some (ite_cond_eq_false _ _ (eq_false hdefined.1))
    · exact instanceMembers_of_find hhost hfind

/-! ### Both -/

/-- **When the name of a class leads back to it.**  Let `D` be a class of the store that has a name.
A class statement that uses `D` as a superclass makes a class whose superclass of that name is `D`,
exactly if the name is not that of the new class and is bound to `D` around the statement when its
body is walked; a function that ends by returning `D` or its instance finds `D` under its name from
its own scope, exactly if the name was bound to `D` there when its body was walked and the function
does not take it.  Then the class offers the names that `D` offers and that are not hidden from it,
and a call of the function has the members of `D`. -/
theorem resolves_iff_visible (hst : st.Sound) (hs : st.HasScope s) :
    (∀ (name : String) (bases : List Expr) (body : List Stmt),
      let mid := st.innerWalk s (some name) [] body
      let out := walkStmt s (.classDef name bases body) st
      (∀ b ∈ bases, ∃ v, mid.infer s b = some v) →
      out.completed = true ∧ ∃ c, ¬ mid.HasClass c ∧
        out.store.find s (some name) = .held (.script c) ∧
        ∀ e ∈ bases, ∀ id, mid.infer s e = some (.held (.script id)) → (mid.cls id).IsDefined →
          SuperclassByName mid out.store s name c id) ∧
    (∀ (name : String) (params : List Label) (body : List Stmt) (e : Expr) (id : ClassId),
      let inner := (st.addChild s none).1
      let mid := st.innerWalk s none params body
      let out := walkStmt s (.function name (some params) body) st
      body.getLast? = some (.ret e) → mid.infer inner e = some (.held (.script id)) →
      (mid.cls id).IsDefined →
      out.completed = true ∧ ResultByName mid out.store s inner name id) := by
  constructor
  · intro name bases body mid out hvalues
    exact exists_superclassByName hst hs hvalues
  · intro name params body e id inner mid out hlast hid hdefined
    exact completed_resultByName hst hs hlast hid hdefined

/-- A script that defines a class with a method. -/
def shapeScript : List Stmt :=
  [.classDef "Shape" [] [.function "draw" (some [some "self"]) []]]

/-- The name of a superclass leads back to it, and so does that of a result. -/
theorem resolves_shape :
    let st := (Analysis.ofStatements {} shapeScript).store
    let shape : Expr := .name (some "Shape")
    st.Sound ∧ st.HasScope ⟨0⟩ ∧
    (∃ c, (walkStmt ⟨0⟩ (.classDef "Square" [shape] []) st).store.find ⟨0⟩ (some "Square") =
        .held (.script c) ∧
      SuperclassByName (st.innerWalk ⟨0⟩ (some "Square") [] [])
        (walkStmt ⟨0⟩ (.classDef "Square" [shape] []) st).store ⟨0⟩ "Square" c ⟨1⟩) ∧
    ResultByName (st.innerWalk ⟨0⟩ none [] [.ret (.call shape)])
      (walkStmt ⟨0⟩ (.function "make" (some []) [.ret (.call shape)]) st).store ⟨0⟩
      (st.addChild ⟨0⟩ none).1 "make" ⟨1⟩ := by
  intro st shape
  have hstand : Standing {} (fun _ => True) st ⟨0⟩ :=
    (Analysis.standing_empty {} fun _ => trivial).after_walkBody shapeScript
  obtain ⟨hsuper, hresult⟩ := resolves_iff_visible hstand.sound hstand.has
  refine ⟨hstand.sound, hstand.has, ?_, ?_⟩
  · obtain ⟨-, c, -, hbound, hall⟩ := hsuper "Square" [shape] [] (by
      intro b hb
      rw [List.mem_singleton.mp hb]
      exact ⟨_, rfl⟩)
    refine ⟨c, hbound, hall shape (List.mem_singleton_self _) ⟨1⟩ ?_ ?_⟩ <;> decide +kernel
  · exact (hresult "make" [] [.ret (.call shape)] (.call shape) ⟨1⟩ rfl (by decide +kernel)
      (by decide +kernel)).2

/-- A script that defines a class inside another. -/
def nestedScript : List Stmt :=
  [.classDef "Outer" [] [.classDef "Inner" [] [.function "draw" (some [some "self"]) []]]]

/-- A class that stands inside another is not found again under its own name, neither as a
superclass nor as a result; and a class of the same name hides the superclass that it replaces. -/
theorem not_resolves_nested :
    let st := (Analysis.ofStatements {} nestedScript).store
    let inner : Expr := .member (.name (some "Outer")) (some "Inner")
    let derived := (walkStmt ⟨0⟩ (.classDef "C" [inner] []) st).store
    let made := (walkStmt ⟨0⟩ (.function "f" (some []) [.ret (.call inner)]) st).store
    let shapes := (Analysis.ofStatements {} shapeScript).store
    let again := (walkStmt ⟨0⟩ (.classDef "Shape" [.name (some "Shape")] []) shapes).store
    ((st.innerWalk ⟨0⟩ (some "C") [] []).infer ⟨0⟩ inner = some (.held (.script ⟨1⟩)) ∧
      (st.cls ⟨1⟩).IsDefined ∧ ({} : Context).reflect (st.cls ⟨1⟩).name = none ∧
      derived.find ⟨0⟩ (some "C") = .held (.script ⟨3⟩) ∧
      derived.scriptSuperclass? (derived.cls ⟨3⟩) "Inner" = none ∧
      some "draw" ∈ (classMembers {} derived (.script ⟨1⟩) .ample).map Entry.name ∧
      classMembers {} derived (.script ⟨3⟩) .ample = []) ∧
    ((st.innerWalk ⟨0⟩ none [] [.ret (.call inner)]).infer ⟨4⟩ (.call inner) =
        some (.held (.script ⟨1⟩)) ∧
      made.find ⟨4⟩ (some "Inner") = .unknown ∧
      (made.infer ⟨0⟩ (.call (.name (some "f")))).map (members {} made ·) = some []) ∧
    ((shapes.innerWalk ⟨0⟩ (some "Shape") [] []).infer ⟨0⟩ (.name (some "Shape")) =
        some (.held (.script ⟨1⟩)) ∧
      again.find ⟨0⟩ (some "Shape") = .held (.script ⟨2⟩) ∧
      again.scriptSuperclass? (again.cls ⟨2⟩) "Shape" = some (.script ⟨2⟩)) := by
  refine ⟨⟨?_, ?_, ?_, ?_, ?_, ?_, ?_⟩, ⟨?_, ?_, ?_⟩, ?_, ?_, ?_⟩ <;> decide_cbv

end Store

end ScriptScope
