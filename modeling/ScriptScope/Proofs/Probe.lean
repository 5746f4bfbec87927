import ScriptScope.Inference.Infer
import ScriptScope.Inference.Members
import ScriptScope.Proofs.Inferred
import ScriptScope.Proofs.Lookups
import ScriptScope.Proofs.Superclasses
import ScriptScope.Proofs.Upholds

/-!
# Stores with a probe

A probe is one more variable of a scope.  What it is bound to may be a class that was made up for
it, and then the classes after this one have other numbers than they would have without it.
`Probe.onStore` puts a probe into a store and renumbers the classes.

A store is clear of a probe if nothing in it would find the probe (`Probe.Clear`).  Putting the
probe in then commutes with everything that can be asked of a store: lookups, attributes, types of
expressions and members (`find_onStore`, `infer_onStore`, `members_onStore`).
-/

namespace ScriptScope

/-- A variable that a scope has in addition, and the classes that are put in for it. -/
structure Probe where
  scope : ScopeId
  label : Label
  held : Descriptor
  /-- The number of the first class that is put in. -/
  base : Nat
  extra : List ClassInfo

namespace Probe

variable (p : Probe)

/-! ### Putting a probe in -/

/-- The number that a class gets. -/
def onClassId (id : ClassId) : ClassId :=
  if id.index < p.base then id else ⟨id.index + p.extra.length⟩

def onDescriptor : Descriptor → Descriptor
  | .script id => .script (p.onClassId id)
  | .unknown => .unknown
  | .instanceOf typeName scope => .instanceOf typeName scope
  | .static name => .static name
  | .function fn => .function fn

def onValue : Value → Value
  | .held d => .held (p.onDescriptor d)
  | .made info => .made info

def onAncestor : Ancestor → Ancestor
  | .script id => .script (p.onClassId id)
  | .host members => .host members
  | .made info => .made info

def onTable (table : Bindings) : Bindings :=
  table.map (fun b => (b.1, p.onDescriptor b.2))

def onScope (s : ScopeId) (info : ScopeInfo) : ScopeInfo :=
  { info with
    imports := p.onTable info.imports
    vars := p.onTable info.vars ++ if s = p.scope then [(p.label, p.held)] else [] }

/-- Puts the probe into its scope. -/
def onStore (st : Store) : Store where
  scopes := st.scopes.mapIdx (fun i info => p.onScope ⟨i⟩ info)
  classes := st.classes.take p.base ++ p.extra ++ st.classes.drop p.base

variable {p} {st : Store}

theorem onClassId_injective : Function.Injective p.onClassId := by
  rintro ⟨a⟩ ⟨b⟩ h
  simp only [onClassId] at h
  split at h <;> split at h <;> simp only [ClassId.mk.injEq] at h ⊢ <;> omega

theorem get?_onTable (table : Bindings) (label : Label) :
    (p.onTable table).get? label = (table.get? label).map p.onDescriptor := by
  unfold onTable Bindings.get?
  rw [List.find?_map, Option.map_map, Option.map_map]
  rfl

theorem scope_onStore (h : st.HasScope p.scope) (s : ScopeId) :
    (p.onStore st).scope s = p.onScope s (st.scope s) := by
  unfold Store.scope onStore
  rw [List.getElem?_mapIdx]
  cases hs : st.scopes[s.index]? with
  | some info => rfl
  -- a number without a scope is not that of the probe
  | none =>
    have hne : s ≠ p.scope := by
      rintro rfl
      exact absurd h (Nat.not_lt.mpr (List.getElem?_eq_none_iff.mp hs))
    simp [onScope, onTable, hne]

theorem cls_onStore (h : p.base ≤ st.classes.length) (id : ClassId) :
    (p.onStore st).cls (p.onClassId id) = st.cls id := by
  unfold Store.cls onStore onClassId
  congr 1
  dsimp only
  split
  · rename_i hlt
    rw [List.append_assoc, List.getElem?_append_left (by rw [List.length_take]; omega),
      List.getElem?_take_of_lt hlt]
  · rename_i hle
    rw [List.getElem?_append_right (by simp; omega), List.getElem?_drop]
    congr 1
    simp
    omega

theorem length_scopes_onStore (st : Store) :
    (p.onStore st).scopes.length = st.scopes.length := by
  simp [onStore]

/-! ### What does not find a probe -/

variable (p)

/-- A descriptor that leads to the scope of the probe by no name that could be the probe's. -/
def Apart : Descriptor → Prop
  | .function fn => fn.scope = some p.scope → fn.returns = none ∧ p.label ∉ fn.params
  | .instanceOf _ scope => scope ≠ some p.scope
  | .unknown | .static _ | .script _ => True

/-- The same of a value; a class that was made up has no superclasses. -/
def ApartValue : Value → Prop
  | .held d => p.Apart d
  | .made info => info.bases = []

/-- A store in which nothing would find the probe: no lookup starts inside its scope, the scope is
not where an instance finds its class or a class its superclasses, and a class body is given no
member. -/
structure Clear (st : Store) : Prop where
  has : st.HasScope p.scope
  base_le : p.base ≤ st.classes.length
  parents : ∀ t, (st.scope t).parent ≠ some p.scope
  bound : st.Every fun b => p.Apart b.2
  bases : ∀ id, (st.cls id).bases ≠ [] → st.home? (st.cls id) ≠ some p.scope
  plain : (st.scope p.scope).className ≠ none → p.held.isMember = false

variable {p}

theorem Clear.sources (h : p.Clear st) (s : ScopeId) : st.Sources s p.ApartValue where
  unknown := trivial
  host typeName := by
    show none ≠ some p.scope
    simp
  imported name := trivial
  bound := h.bound
  builtin hinfo := Store.bases_of_builtin? hinfo
  result := by
    intro fn typeName hfn hreturns hscope
    rw [(hfn hscope).1] at hreturns
    simp at hreturns

theorem Clear.not_mem_chain (h : p.Clear st) {s : ScopeId} (hs : s ≠ p.scope) :
    p.scope ∉ st.chain s := by
  unfold Store.chain
  generalize st.scopes.length = bound
  -- outwards: no scope names the one of the probe as its parent
  induction bound generalizing s with
  | zero => simp [Store.chainFrom]
  | succ bound ih =>
    rw [Store.chainFrom, List.mem_cons, not_or]
    refine ⟨hs.symm, ?_⟩
    cases hparent : (st.scope s).parent with
    | none => simp
    | some q =>
      refine ih ?_
      rintro rfl
      exact h.parents s hparent

/-! ### Lookups -/

section Lookups

variable (h : p.Clear st)

include h

theorem chain_onStore (s : ScopeId) : (p.onStore st).chain s = st.chain s :=
  Store.chain_of_parents_eq (length_scopes_onStore st)
    (fun t => by rw [scope_onStore h.has]; rfl) s

omit h in
theorem get?_vars_onScope {s : ScopeId} {label : Label} (hne : s ≠ p.scope ∨ label ≠ p.label)
    (info : ScopeInfo) :
    (p.onScope s info).vars.get? label = (info.vars.get? label).map p.onDescriptor := by
  unfold onScope
  dsimp only
  rw [Bindings.get?_append, get?_onTable]
  split
  · rename_i hs
    have hlabel : ¬ p.label = label := fun e => hne.elim (absurd hs) (absurd e.symm)
    simp [Bindings.get?, hlabel]
  · simp [Bindings.get?]

omit h in
theorem lookup?_onScope {s : ScopeId} {label : Label} (hne : s ≠ p.scope ∨ label ≠ p.label)
    (info : ScopeInfo) :
    (p.onScope s info).lookup? label = (info.lookup? label).map p.onDescriptor := by
  unfold ScopeInfo.lookup?
  rw [get?_vars_onScope hne]
  have himports : (p.onScope s info).imports.get? label =
      (info.imports.get? label).map p.onDescriptor := get?_onTable info.imports label
  rw [himports]
  cases info.vars.get? label <;> rfl

/-- From any other scope, or by any other name, a lookup finds what it found without the probe. -/
theorem find_onStore {s : ScopeId} {label : Label} (hne : s ≠ p.scope ∨ label ≠ p.label) :
    (p.onStore st).find s label = p.onValue (st.find s label) := by
  have hbinding : (p.onStore st).binding? s label =
      (st.binding? s label).map p.onDescriptor := by
    unfold Store.binding?
    rw [chain_onStore h, List.map_findSome?, ← List.head?_filterMap, ← List.head?_filterMap]
    refine congrArg List.head? (List.filterMap_congr fun t ht => ?_)
    rw [scope_onStore h.has]
    refine lookup?_onScope ?_ _
    rcases hne with hs | hlabel
    · left
      rintro rfl
      exact h.not_mem_chain hs ht
    · exact .inr hlabel
  have hbuiltin : (p.onStore st).builtin? s = st.builtin? s := by
    funext name
    unfold Store.builtin? Store.builtinMembers
    rw [scope_onStore h.has]
    rfl
  unfold Store.find
  rw [hbinding, hbuiltin]
  cases st.binding? s label with
  | some d => rfl
  | none =>
    cases label.bind (st.builtin? s) with
    | some info => rfl
    | none => rfl

/-- By any other name, a class body has the members that it had. -/
theorem bodyBinding?_onStore {member : Label} (hne : member ≠ p.label) (c : ClassInfo) :
    (p.onStore st).bodyBinding? c member = (st.bodyBinding? c member).map p.onDescriptor := by
  unfold Store.bodyBinding?
  cases c.scope with
  | none => rfl
  | some s =>
    rw [Option.bind_some, Option.bind_some, scope_onStore h.has]
    show (if (st.scope s).className = some c.name then _ else _) = _
    split
    · exact get?_vars_onScope (.inr hne) _
    · rfl

theorem bodyBinding?_cls_onStore {member : Label} (hne : member ≠ p.label) (id : ClassId) :
    (p.onStore st).bodyBinding? ((p.onStore st).cls (p.onClassId id)) member =
      (st.bodyBinding? (st.cls id) member).map p.onDescriptor := by
  rw [cls_onStore h.base_le, bodyBinding?_onStore h hne]

theorem valueType_onStore (v : Value) :
    (p.onStore st).valueType (p.onValue v) = st.valueType v := by
  cases v with
  | made info => rfl
  | held d =>
    cases d with
    | script id => exact congrArg (fun c => some c.name) (cls_onStore h.base_le id)
    | _ => rfl

end Lookups

/-! ### Lineages -/

theorem ancestorOf?_onValue (v : Value) :
    Store.ancestorOf? (p.onValue v) = (Store.ancestorOf? v).map p.onAncestor := by
  cases v with
  | made info => rfl
  | held d => cases d <;> rfl

section Lineages

variable (h : p.Clear st) (ctx : Context)

include h

theorem home?_onStore (c : ClassInfo) : (p.onStore st).home? c = st.home? c := by
  unfold Store.home?
  cases c.scope with
  | none => rfl
  | some s =>
    rw [Option.map_some, Option.map_some, scope_onStore h.has]
    rfl

/-- A class names the superclasses that it named. -/
theorem superclasses_onStore (id : ClassId) :
    Store.superclasses ctx (p.onStore st) ((p.onStore st).cls (p.onClassId id)) =
      (Store.superclasses ctx st (st.cls id)).map p.onAncestor := by
  rw [cls_onStore h.base_le]
  unfold Store.superclasses
  rw [List.map_filterMap]
  refine List.filterMap_congr fun base hbase => ?_
  unfold Store.superclass?
  cases ctx.reflect base with
  | some members => rfl
  | none =>
    have hhome := h.bases id (List.ne_nil_of_mem hbase)
    unfold Store.scriptSuperclass?
    rw [home?_onStore h]
    cases hs : st.home? (st.cls id) with
    | none => rfl
    | some s =>
      rw [hs] at hhome
      dsimp only [Option.map_some]
      rw [find_onStore h (.inl fun e => hhome (congrArg some e))]
      cases st.find s (some base) with
      | made info => rfl
      | held d => cases d <;> rfl

theorem lineage_onStore (start : Ancestor) :
    Store.lineage ctx (p.onStore st) (p.onAncestor start) =
      (Store.lineage ctx st start).map p.onAncestor := by
  -- the classes put in are never come to
  have hrenumbered : Store.Renumbered ctx st (p.onStore st) (fun _ => True) p.onClassId
      p.onAncestor :=
    ⟨fun _ => rfl, fun _ => rfl, fun _ => rfl, fun _ _ _ _ e => onClassId_injective e,
      fun id _ => superclasses_onStore h ctx id, fun _ _ _ _ => trivial⟩
  refine hrenumbered.lineage_eq (fun id _ => ?_) fun _ _ => trivial
  have hbase := h.base_le
  unfold Store.HasClass onClassId onStore
  split <;> simp <;> omega

end Lineages

/-! ### Types of expressions -/

end Probe

mutual

/-- The labels of the members that an expression accesses. -/
def Expr.accessed : Expr → List Label
  | .member object label => label :: object.accessed
  | .call inner | .unary inner | .paren inner | .yield inner => inner.accessed
  | .binary left right => left.accessed ++ right.accessed
  | .sequence items => Expr.accessedIn items
  | .name _ | .integer | .float | .text | .splat | .other | .fault => []

/-- The labels of the members that expressions access. -/
def Expr.accessedIn : List Expr → List Label
  | [] => []
  | e :: rest => e.accessed ++ Expr.accessedIn rest

end

namespace Probe

section Types

variable {p : Probe} {st : Store} (h : p.Clear st)

include h

theorem classBehind?_onStore {v : Value} (hv : p.ApartValue v) :
    (p.onStore st).classBehind? (p.onValue v) = (st.classBehind? v).map p.onAncestor := by
  cases v with
  | made info => rfl
  | held d =>
    cases d with
    | instanceOf typeName scope =>
      cases scope with
      | none => rfl
      | some s =>
        have hs : s ≠ p.scope := fun e => hv (congrArg some e)
        show Store.ancestorOf? ((p.onStore st).find s (some typeName)) = _
        rw [find_onStore h (.inl hs), ancestorOf?_onValue]
        rfl
    | _ => rfl

theorem attributeAt?_onStore {member : String} (hne : some member ≠ p.label) (a : Ancestor) :
    (p.onStore st).attributeAt? member (p.onAncestor a) =
      (st.attributeAt? member a).map p.onValue := by
  cases a with
  | host members =>
    show (Host.memberType? members member).map Value.ofHostType =
      ((Host.memberType? members member).map Value.ofHostType).map p.onValue
    rw [Option.map_map]
    rfl
  | script id =>
    show ((p.onStore st).bodyBinding? ((p.onStore st).cls (p.onClassId id)) (some member)).map
      Value.held = ((st.bodyBinding? (st.cls id) (some member)).map Value.held).map p.onValue
    rw [bodyBinding?_cls_onStore h hne, Option.map_map, Option.map_map]
    rfl
  | made info =>
    show ((p.onStore st).bodyBinding? info (some member)).map Value.held =
      ((st.bodyBinding? info (some member)).map Value.held).map p.onValue
    rw [bodyBinding?_onStore h hne, Option.map_map, Option.map_map]
    rfl

theorem classAttribute?_onStore (ctx : Context) {member : String} (hne : some member ≠ p.label)
    (start : Ancestor) :
    Store.classAttribute? ctx (p.onStore st) (p.onAncestor start) member =
      (Store.classAttribute? ctx st start member).map p.onValue := by
  unfold Store.classAttribute?
  rw [lineage_onStore h, List.findSome?_map, List.map_findSome?]
  congr 1
  funext a
  exact attributeAt?_onStore h hne a

omit h in
theorem qualified_onValue (ctx : Context) (base : Value) (typeName member : String) :
    Store.qualified ctx (p.onValue base) typeName member =
      p.onValue (Store.qualified ctx base typeName member) := by
  unfold Store.qualified
  dsimp only
  split
  · rfl
  · split
    · rfl
    · cases base with
      | made info => rfl
      | held d =>
        cases d with
        | static name =>
          show (if member ∈ (ctx.moduleMembers typeName).getD [] then _ else _) =
            p.onValue (if member ∈ (ctx.moduleMembers typeName).getD [] then _ else _)
          split <;> rfl
        | _ => rfl

theorem memberOf_onStore (s : ScopeId) {base : Value} (hbase : p.ApartValue base) {label : Label}
    (hne : label ≠ p.label) : (p.onStore st).memberOf s (p.onValue base) label =
      p.onValue (st.memberOf s base label) := by
  unfold Store.memberOf
  rw [valueType_onStore h, scope_onStore h.has]
  cases st.valueType base with
  | none => rfl
  | some typeName =>
    cases label with
    | none => rfl
    | some member =>
      dsimp only [onScope]
      split
      · rfl
      · cases Store.hostMemberType? (st.scope s).context typeName member with
        | some hostType => rfl
        | none =>
          dsimp only
          rw [classBehind?_onStore h hbase]
          cases st.classBehind? base with
          | none => exact qualified_onValue ..
          | some start =>
            rw [Option.map_some, Option.bind_some, Option.bind_some,
              classAttribute?_onStore h _ hne]
            cases Store.classAttribute? (st.scope s).context st start member with
            | none => exact qualified_onValue ..
            | some v => rfl

omit h in
theorem resultOf_onValue (v : Value) :
    Store.resultOf (p.onValue v) = p.onValue (Store.resultOf v) := by
  cases v with
  | made info => rfl
  | held d =>
    cases d with
    | function fn =>
      show Store.resultOf (.held (.function fn)) = p.onValue (Store.resultOf (.held (.function fn)))
      unfold Store.resultOf
      dsimp only
      cases fn.returns with
      | none => rfl
      | some typeName =>
        dsimp only
        split <;> rfl
    | _ => rfl

omit h in
theorem isUnknown_onValue (v : Value) : (p.onValue v).isUnknown = v.isUnknown := by
  cases v with
  | made info => rfl
  | held d => cases d <;> rfl

/-- Outside of its scope the probe does not change the type of an expression. -/
theorem infer_onStore {s : ScopeId} (hs : s ≠ p.scope) {e : Expr} (he : p.label ∉ e.accessed) :
    (p.onStore st).infer s e = (st.infer s e).map p.onValue := by
  fun_induction Store.infer st s e with
  | case1 | case3 | case4 | case5 | case14 | case15 | case16 | case17 =>
    rw [Store.infer]
    rfl
  | case2 name =>
    rw [Store.infer, find_onStore h (.inl hs)]
    rfl
  | case6 object label ih =>
    rw [Expr.accessed, List.mem_cons, not_or] at he
    rw [Store.infer, ih he.2]
    cases hobject : st.infer s object with
    | none => rfl
    | some base =>
      have hbase := (h.sources s).forall_infer hobject
      exact congrArg some (memberOf_onStore h s hbase (Ne.symm he.1))
  | case7 callee ih =>
    rw [Expr.accessed] at he
    rw [Store.infer, ih he]
    cases st.infer s callee with
    | none => rfl
    | some v => exact congrArg some (resultOf_onValue v)
  | case8 left right hfloat =>
    rw [Store.infer]
    simp only [hfloat, ↓reduceIte]
    rfl
  | case9 left right hfloat hinteger =>
    rw [Store.infer]
    simp only [hfloat, hinteger, ↓reduceIte]
    rfl
  | case10 left right hfloat hinteger ihl ihr =>
    rw [Expr.accessed, List.mem_append, not_or] at he
    rw [Store.infer]
    simp only [hfloat, hinteger, ihl he.1]
    cases st.infer s left with
    | none => rfl
    | some l =>
      show (if (p.onValue l).isUnknown then (p.onStore st).infer s right else _) =
        Option.map p.onValue (if l.isUnknown then st.infer s right else _)
      rw [isUnknown_onValue, ihr he.2]
      split <;> rfl
  | case11 operand ih =>
    rw [Expr.accessed] at he
    rw [Store.infer, ih he]
  | case12 inner ih =>
    rw [Expr.accessed] at he
    rw [Store.infer, ih he]
  | case13 inner ih =>
    rw [Expr.accessed] at he
    rw [Store.infer, ih he]

end Types

/-! ### Members -/

section Members

variable {p : Probe} {st : Store} (h : p.Clear st)

include h

/-- A class body has the members that it had, and possibly the probe, which is then no member. -/
theorem bodyBinding?_onStore_cases (c : ClassInfo) (member : Label) :
    (p.onStore st).bodyBinding? c member = (st.bodyBinding? c member).map p.onDescriptor ∨
      st.bodyBinding? c member = none ∧
      (p.onStore st).bodyBinding? c member = some p.held ∧ p.held.isMember = false := by
  by_cases hne : member ≠ p.label
  · exact .inl (bodyBinding?_onStore h hne c)
  rw [not_not] at hne
  unfold Store.bodyBinding?
  cases c.scope with
  | none => exact .inl rfl
  | some s =>
    rw [Option.bind_some, Option.bind_some, scope_onStore h.has]
    show (if (st.scope s).className = some c.name then _ else _) = _ ∨ _ ∧
      (if (st.scope s).className = some c.name then _ else _) = _ ∧ _
    by_cases hbody : (st.scope s).className = some c.name
    · simp only [hbody, ↓reduceIte]
      by_cases hs : s = p.scope
      · have hplain : p.held.isMember = false := by
          refine h.plain ?_
          rw [← hs, hbody]
          simp
        unfold onScope
        dsimp only
        rw [Bindings.get?_append, get?_onTable]
        cases (st.scope s).vars.get? member with
        | some d => exact .inl rfl
        | none => exact .inr ⟨rfl, by simp [hs, hne, Bindings.get?], hplain⟩
      · exact .inl (get?_vars_onScope (.inl hs) _)
    · simp [hbody]

theorem ownEntry_onStore (c : ClassInfo) (member : Label) :
    (p.onStore st).ownEntry c member = st.ownEntry c member := by
  unfold Store.ownEntry
  rcases bodyBinding?_onStore_cases h c member with hsame | ⟨hnone, hprobe, hplain⟩
  · rw [hsame]
    cases st.bodyBinding? c member with
    | none => rfl
    | some d =>
      cases d with
      | script id =>
        show Entry.mk _ _ (some ((p.onStore st).cls (p.onClassId id)).name)
          (some ((p.onStore st).cls (p.onClassId id)).params) _ = _
        rw [cls_onStore h.base_le]
      | _ => rfl
  · rw [hnone, hprobe]
    cases hheld : p.held with
    | function fn => simp [hheld, Descriptor.isMember] at hplain
    | script id => simp [hheld, Descriptor.isMember] at hplain
    | _ => rfl

theorem entriesAt_onStore (a : Ancestor) :
    (p.onStore st).entriesAt (p.onAncestor a) = st.entriesAt a := by
  have hown : (p.onStore st).ownEntry = st.ownEntry := by
    funext c member
    exact ownEntry_onStore h c member
  cases a with
  | host members => rfl
  | script id =>
    show ((p.onStore st).cls (p.onClassId id)).members.map _ = _
    rw [cls_onStore h.base_le, hown]
    rfl
  | made info =>
    show info.members.map _ = _
    rw [hown]
    rfl

theorem classMembers_onStore (ctx : Context) (start : Ancestor) :
    Store.classMembers ctx (p.onStore st) (p.onAncestor start) .ample =
      Store.classMembers ctx st start .ample := by
  unfold Store.classMembers
  rw [Store.listing_ample, Store.listing_ample, lineage_onStore h, List.flatMap_map]
  congr 1
  refine congrArg (List.flatMap · _) ?_
  funext a
  exact entriesAt_onStore h a

theorem instanceMembers_onStore (ctx : Context) (typeName : String) {scope : Option ScopeId}
    (hscope : scope ≠ some p.scope) :
    Store.instanceMembers ctx (p.onStore st) typeName scope .ample =
      Store.instanceMembers ctx st typeName scope .ample := by
  unfold Store.instanceMembers
  cases ctx.reflect typeName with
  | some members => rfl
  | none =>
    cases scope with
    | none => rfl
    | some s =>
      dsimp only [Option.bind_some]
      rw [find_onStore h (.inl fun e => hscope (congrArg some e)), ancestorOf?_onValue]
      cases Store.ancestorOf? (st.find s (some typeName)) with
      | none => rfl
      | some start => exact classMembers_onStore h ctx start

/-- The probe does not change the members of a value. -/
theorem members_onStore (ctx : Context) {v : Value} (hv : p.ApartValue v) :
    Store.members ctx (p.onStore st) (p.onValue v) = Store.members ctx st v := by
  cases v with
  | made info => exact classMembers_onStore h ctx (.made info)
  | held d =>
    cases d with
    | unknown => rfl
    | static name => rfl
    | script id => exact classMembers_onStore h ctx (.script id)
    | instanceOf typeName scope => exact instanceMembers_onStore h ctx typeName hv
    | function fn =>
      show Store.members ctx (p.onStore st) (.held (.function fn)) = _
      unfold Store.members
      dsimp only
      cases hreturns : fn.returns with
      | none => rfl
      | some typeName =>
        dsimp only
        split
        · rfl
        · refine instanceMembers_onStore h ctx typeName fun hscope => ?_
          rw [(hv hscope).1] at hreturns
          simp at hreturns

/-- A class that was made up has the same members once it is put in. -/
theorem members_extra (ctx : Context) {id : ClassId} (hid : (p.onStore st).HasClass id)
    {info : ClassInfo} (hinfo : (p.onStore st).cls id = info) (hbases : info.bases = []) :
    Store.members ctx (p.onStore st) (.held (.script id)) = Store.members ctx st (.made info) := by
  have hlineage : Store.lineage ctx (p.onStore st) (.script id) = [.script id] := by
    unfold Store.lineage
    rw [Store.lineageFrom, ite_cond_eq_true _ _ (eq_true (Store.mem_classIds_iff.mpr hid))]
    simp [Store.superclasses, hinfo, hbases, Store.lineageFrom]
  have hmade : Store.lineage ctx st (.made info) = [.made info] := by
    simp [Store.lineage, Store.lineageFrom]
  have hentries : (p.onStore st).entriesAt (.script id) = st.entriesAt (.made info) := by
    rw [← entriesAt_onStore h (.made info)]
    show ((p.onStore st).cls id).members.map _ = _
    rw [hinfo]
    rfl
  show Store.classMembers ctx (p.onStore st) (.script id) .ample =
    Store.classMembers ctx st (.made info) .ample
  unfold Store.classMembers
  rw [Store.listing_ample, Store.listing_ample, hlineage, hmade, List.flatMap_singleton,
    List.flatMap_singleton, hentries]

end Members

end Probe

end ScriptScope
