import ScriptScope.Proofs.Growth
import ScriptScope.Proofs.Unification

/-!
# Members and attributes of a class

A class offers the members that are listed along its lineage, and an attribute of a class is looked
for along the same lineage.  The two do not go by the same rule: a place offers its members, which
are the functions and the classes of its body and what its methods assign, while an attribute is
whatever the body binds.  So a name that a body binds to something else is an attribute, but no
member; the class conceals it, and so does a class whose members are passed over.

A callable member that comes from a script class is what the attribute of its name is, unless a
class that stands before it on the lineage conceals the name, and then the attribute is what the
first such class has (`attribute_of_callable`).  A class that a script defines conceals neither
functions nor classes (`Passes.lists_definitions`).
-/

namespace ScriptScope

namespace Store

variable {ctx : Context} {st : Store} {start : Ancestor} {heap : Heap}

/-! ### Where a member comes from -/

/-- An entry comes from a place on a lineage, after some stops: of all places that are listed, it is
the first with a member of this name. -/
structure ComesFrom (ctx : Context) (st : Store) (start : Ancestor) (heap : Heap) (e : Entry)
    (before : List Stop) (a : Ancestor) : Prop where
  stops : ∃ stop after, stops ctx st start heap = before ++ stop :: after ∧ stop.place = a
  first : ∀ b ∈ listedFrom [] before, e.name ∉ (st.entriesAt b).map Entry.name
  offers : e ∈ st.entriesAt a

/-- Every member of a class comes from a place on its lineage. -/
theorem exists_comesFrom {e : Entry} (h : e ∈ classMembers ctx st start heap) :
    ∃ before a, ComesFrom ctx st start heap e before a := by
  have hfind := find?_key_of_mem Entry.name (nodup_firstBy_keys _ _) h
  rw [find?_firstBy, List.find?_flatMap, List.findSome?_eq_some_iff] at hfind
  obtain ⟨listed, a, others, hlisting, hfound, hnone⟩ := hfind
  obtain ⟨before, stop, after, hstops, hplace, rfl⟩ := exists_stop_of_listedFrom hlisting
  refine ⟨before, a, ⟨stop, after, hstops, hplace⟩, fun b hb hmem => ?_,
    List.mem_of_find?_eq_some hfound⟩
  obtain ⟨x, hx, hname⟩ := List.mem_map.mp hmem
  have hno := List.find?_eq_none.mp (hnone b hb) x hx
  exact hno (by simpa using hname)

theorem ComesFrom.lineage {e : Entry} {before : List Stop} {a : Ancestor}
    (h : ComesFrom ctx st start heap e before a) :
    ∃ after, lineage ctx st start = before.map Stop.place ++ a :: after := by
  obtain ⟨stop, after, hstops, rfl⟩ := h.stops
  refine ⟨after.map Stop.place, ?_⟩
  rw [← places_stops ctx st start heap, hstops, List.map_append, List.map_cons]

/-! ### What a place has -/

/-- Among some stops, a class binds a name in its body that it does not offer: the name is not among
its members, or the class is passed over. -/
def Conceals (st : Store) (stops : List Stop) (name : String) (a : Ancestor) : Prop :=
  ∃ c d, st.classAt? a = some c ∧ st.bodyBinding? c (some name) = some d ∧
    (some name ∉ c.members ∨ a ∉ listedFrom [] stops)

/-- At a class, an attribute is what the body binds. -/
theorem attributeAt?_of_classAt? {a : Ancestor} {c : ClassInfo} (h : st.classAt? a = some c)
    (name : String) : st.attributeAt? name a = (st.bodyBinding? c (some name)).map .held := by
  cases a with
  | host members => simp [classAt?] at h
  | script id => rw [← Option.some.inj h]; rfl
  | made info => rw [← Option.some.inj h]; rfl

/-- A typed host member is a member. -/
theorem mem_names_of_memberType? {members : List Host.Member} {name type : String}
    (h : Host.memberType? members name = some type) :
    some name ∈ (st.entriesAt (.host members)).map Entry.name := by
  have hamong : ∀ fields, Host.typeAmong fields name members = some type →
      ∃ m ∈ members, m.name = name := by
    intro fields hfields
    obtain ⟨m, hm, hif⟩ := List.exists_of_findSome?_eq_some hfields
    rw [Option.ite_none_right_eq_some, Bool.and_eq_true, beq_iff_eq, beq_iff_eq] at hif
    exact ⟨m, hm, hif.1.2⟩
  rw [names_entriesAt_host, List.mem_map]
  rw [Host.memberType?, Option.orElse_eq_orElse, Option.orElse_eq_or] at h
  rcases Option.or_eq_some_iff.mp h with hmethod | ⟨-, hfield⟩
  · obtain ⟨m, hm, rfl⟩ := hamong false hmethod
    exact ⟨m, hm, rfl⟩
  · obtain ⟨m, hm, rfl⟩ := hamong true hfield
    exact ⟨m, hm, rfl⟩

/-- Without a member of a name, a place has such an attribute only if a class binds it there. -/
theorem exists_binding_of_attributeAt? {a : Ancestor} {name : String} {value : Value}
    (hmember : some name ∉ (st.entriesAt a).map Entry.name)
    (h : st.attributeAt? name a = some value) :
    ∃ c d, st.classAt? a = some c ∧ st.bodyBinding? c (some name) = some d ∧
      some name ∉ c.members := by
  have hclass : ∀ c, st.classAt? a = some c → ∃ c d, st.classAt? a = some c ∧
      st.bodyBinding? c (some name) = some d ∧ some name ∉ c.members := by
    intro c hc
    rw [attributeAt?_of_classAt? hc] at h
    obtain ⟨d, hd, -⟩ := Option.map_eq_some_iff.mp h
    rw [names_entriesAt_of_classAt? hc] at hmember
    exact ⟨c, d, hc, hd, hmember⟩
  cases a with
  | host members =>
    obtain ⟨type, htype, -⟩ := Option.map_eq_some_iff.mp h
    exact absurd (mem_names_of_memberType? htype) hmember
  | script id => exact hclass _ rfl
  | made info => exact hclass _ rfl

/-- A callable member of a class is the attribute that its body binds. -/
theorem exists_attributeAt?_of_callable {a : Ancestor} {c : ClassInfo} {e : Entry} {name : String}
    (hc : st.classAt? a = some c) (he : e ∈ st.entriesAt a) (hname : e.name = some name)
    (hcallable : e.params.isSome = true) :
    ∃ d, st.attributeAt? name a = some (.held d) ∧ st.typeName d = e.typeName := by
  have hown : e = st.ownEntry c (some name) := by
    cases a with
    | host members => simp [classAt?] at hc
    | script id =>
      obtain ⟨member, -, rfl⟩ := List.mem_map.mp he
      rw [name_ownEntry] at hname
      rw [← Option.some.inj hc, hname]
    | made info =>
      obtain ⟨member, -, rfl⟩ := List.mem_map.mp he
      rw [name_ownEntry] at hname
      rw [← Option.some.inj hc, hname]
  rw [attributeAt?_of_classAt? hc]
  subst hown
  unfold ownEntry at hcallable ⊢
  split at hcallable
  · rename_i fn hbound
    exact ⟨.function fn, by rw [hbound]; rfl, rfl⟩
  · rename_i id hbound
    exact ⟨.script id, by rw [hbound]; rfl, rfl⟩
  · simp [Entry.plain] at hcallable

/-! ### The attribute of a member's name -/

section Attribute

variable {e : Entry} {before : List Stop} {a : Ancestor} {name : String}

/-- A place before the one that a member comes from has an attribute of this name only if it
conceals it. -/
theorem ComesFrom.attributeAt?_eq_none (h : ComesFrom ctx st start heap e before a)
    (hname : e.name = some name) {b : Ancestor} (hb : b ∈ before.map Stop.place)
    (hno : ¬ st.Conceals before name b) : st.attributeAt? name b = none := by
  rw [Option.eq_none_iff_forall_ne_some]
  intro value hvalue
  by_cases hlisted : b ∈ listedFrom [] before
  · have hfirst := h.first b hlisted
    rw [hname] at hfirst
    obtain ⟨c, d, hc, hd, hmember⟩ := exists_binding_of_attributeAt? hfirst hvalue
    exact hno ⟨c, d, hc, hd, .inl hmember⟩
  -- only a class that was made up can be left out
  · cases b with
    | host members => exact hlisted ((mem_listedFrom_of_stays (by simp) _ _).mpr hb)
    | script id => exact hlisted ((mem_listedFrom_of_stays (by simp) _ _).mpr hb)
    | made info =>
      rw [attributeAt?_of_classAt? rfl] at hvalue
      obtain ⟨d, hd, -⟩ := Option.map_eq_some_iff.mp hvalue
      exact hno ⟨info, d, rfl, hd, .inr hlisted⟩

/-- Where a member comes from, there may be an attribute; then the class has one. -/
theorem ComesFrom.exists_classAttribute? (h : ComesFrom ctx st start heap e before a)
    {value : Value} (hvalue : st.attributeAt? name a = some value) :
    ∃ found, classAttribute? ctx st start name = some found := by
  obtain ⟨after, hlineage⟩ := h.lineage
  unfold classAttribute?
  rw [← Option.isSome_iff_exists, List.findSome?_isSome_iff]
  refine ⟨a, ?_, by rw [hvalue]; rfl⟩
  rw [hlineage]
  exact List.mem_append_right _ (List.mem_cons_self ..)

/-- If no class before it conceals the name, what a member comes from decides the attribute. -/
theorem ComesFrom.classAttribute?_eq (h : ComesFrom ctx st start heap e before a)
    (hname : e.name = some name) (hno : ∀ b ∈ before, ¬ st.Conceals before name b.place)
    {value : Value} (hvalue : st.attributeAt? name a = some value) :
    classAttribute? ctx st start name = some value := by
  obtain ⟨after, hlineage⟩ := h.lineage
  unfold classAttribute?
  rw [List.findSome?_eq_some_iff]
  refine ⟨before.map Stop.place, a, after, hlineage, hvalue, ?_⟩
  intro b hb
  obtain ⟨stop, hstop, rfl⟩ := List.mem_map.mp hb
  exact h.attributeAt?_eq_none hname hb (hno stop hstop)

/-- Otherwise the first class that conceals the name does. -/
theorem ComesFrom.classAttribute?_of_conceals (h : ComesFrom ctx st start heap e before a)
    (hname : e.name = some name) {earlier later : List Stop} {b : Stop}
    (hbefore : before = earlier ++ b :: later)
    (hno : ∀ x ∈ earlier, ¬ st.Conceals before name x.place) {value : Value}
    (hvalue : st.attributeAt? name b.place = some value) :
    classAttribute? ctx st start name = some value := by
  obtain ⟨after, hlineage⟩ := h.lineage
  unfold classAttribute?
  rw [List.findSome?_eq_some_iff]
  refine ⟨earlier.map Stop.place, b.place, later.map Stop.place ++ a :: after, ?_, hvalue, ?_⟩
  · rw [hlineage, hbefore, List.map_append, List.map_cons, List.append_assoc, List.cons_append]
  · intro x hx
    obtain ⟨stop, hstop, rfl⟩ := List.mem_map.mp hx
    have hmem : stop ∈ before := by
      rw [hbefore]
      exact List.mem_append_left _ hstop
    exact h.attributeAt?_eq_none hname (List.mem_map_of_mem hmem) (hno stop hstop)

end Attribute

/-! ### Classes that a script defines -/

/-- A class body lists the functions and the classes that it binds. -/
theorem mem_ownMembers {table : Bindings} {label : Label} {d : Descriptor}
    (h : (label, d) ∈ table) (hd : d.isMember = true) : label ∈ ownMembers table := by
  unfold ownMembers
  rw [List.mem_map]
  refine ⟨(label, d), List.mem_filter.mpr ⟨h, ?_⟩, rfl⟩
  cases d with
  | function fn => rfl
  | script id => rfl
  | unknown => simp [Descriptor.isMember] at hd
  | instanceOf typeName scope => simp [Descriptor.isMember] at hd
  | static name => simp [Descriptor.isMember] at hd

/-- A class that a statement defines bears its name, stands in a scope that the statement opened,
and lists the functions and the classes that this scope binds. -/
structure ListsBody (v : Visit) (name : String) (id : ClassId) (inner : ScopeId) : Prop where
  name : (v.outcome.store.cls id).name = name
  scope : (v.outcome.store.cls id).scope = some inner
  has : v.outcome.store.HasScope inner
  inside : ¬ v.Outside inner
  members : ownMembers (v.outcome.store.scope inner).vars ⊆ (v.outcome.store.cls id).members

theorem Standing.exists_lists {v : Visit} (h : Standing ctx (fun _ => True) v.before v.scope)
    {name : String} {id : ClassId} (hdefines : v.DefinesClass name id) :
    ∃ inner, ListsBody v name id inner := by
  obtain ⟨s, stmt, before⟩ := v
  obtain ⟨bases, body, hstmt, hend, hclass⟩ := hdefines
  dsimp only at h hstmt hclass
  subst hstmt
  set inner := (before.addChild s (some name)).1
  set mid := before.innerWalk s (some name) [] body with hmid
  have hstand : Standing ctx (fun _ => True) mid s := h.after_innerWalk (some name) [] body
  have hinner : mid.HasScope inner := h.hasScope_innerWalk (some name) [] body
  obtain ⟨superclasses, hbases⟩ : ∃ superclasses, mid.baseNames s bases = some superclasses := by
    rw [← Option.ne_none_iff_exists']
    intro hnone
    rw [Visit.outcome, walkStmt_classDef_eq, ← hmid, hnone] at hend
    simp [Outcome.stopped] at hend
  obtain ⟨c, members, -, -, hscopes, hinfo, hunified⟩ :=
    exists_unified_classEnd hstand.sound hbases
  -- the name is bound to the class that the body made
  have hid : c = id := by
    rw [Visit.outcome, scope_of_scopes_eq hscopes, vars_bindVar_self mid _ _ hstand.has,
      Bindings.get?_bind, ite_cond_eq_true _ _ (eq_self _), Option.some.injEq,
      Descriptor.script.injEq] at hclass
    exact hclass
  subst hid
  have hne : inner ≠ s := by
    intro e
    have hs : before.HasScope inner := by
      rw [e]
      exact h.has
    exact Nat.lt_irrefl _ hs
  have htable : (Visit.outcome ⟨s, .classDef name bases body, before⟩).store.scope inner =
      mid.scope inner := by
    rw [Visit.outcome, scope_of_scopes_eq hscopes, scope_bindVar_of_ne mid _ _ hne]
  have hhas : (Visit.outcome ⟨s, .classDef name bases body, before⟩).store.HasScope inner := by
    show inner.index < _
    rw [Visit.outcome, hscopes, length_scopes_bindVar]
    exact hinner
  refine ⟨inner, congrArg ClassInfo.name hinfo, congrArg ClassInfo.scope hinfo, hhas, ?_, ?_⟩
  · rintro (hlt | hle)
    · exact Nat.lt_irrefl _ hlt
    · exact Nat.not_lt.mpr hle hhas
  · intro label hlabel
    rw [htable] at hlabel
    show label ∈ ((walkStmt s (.classDef name bases body) before).store.cls c).members
    rw [hunified.members, ← nil_addNew, mem_addNew]
    exact .inr (List.mem_append_left _ hlabel)

/-- It does so ever after. -/
theorem Passes.lists_definitions {v : Visit} {st final : Store} {name : String} {id : ClassId}
    (h : Passes .free v st final) (hs : Standing ctx (fun _ => True) v.before v.scope)
    (hdefines : v.DefinesClass name id) (hname : name ≠ placeholderName) {label : Label}
    {d : Descriptor} (hbound : final.bodyBinding? (final.cls id) label = some d)
    (hd : d.isMember = true) : label ∈ (final.cls id).members := by
  obtain ⟨inner, hlists⟩ := hs.exists_lists hdefines
  have hhas : v.outcome.store.HasClass id := by
    by_contra hno
    have hscope := hlists.scope
    rw [cls_of_not_hasClass hno] at hscope
    simp [default] at hscope
  -- no class takes it over, and nothing more is bound in its body
  have hsame : (v.outcome.store.cls id).SameIdentity (final.cls id) := by
    rcases h.after.same_or_taken hhas with hsame | ⟨hopen, -⟩
    · exact hsame
    · rw [ClassInfo.isPlaceholder, hlists.name, decide_eq_true_eq] at hopen
      exact absurd hopen hname
  have hbody : final.scope inner = v.outcome.store.scope inner :=
    h.after.writes.change.elsewhere inner hlists.has hlists.inside
  unfold bodyBinding? at hbound
  rw [hsame.scope, hlists.scope, Option.bind_some, Option.ite_none_right_eq_some, hbody] at hbound
  have hown : label ∈ ownMembers (v.outcome.store.scope inner).vars :=
    mem_ownMembers (Bindings.mem_of_get? hbound.2) hd
  exact (h.after.growth.members id hhas).subset (hlists.members hown)

end Store

namespace Analysis

open Store

/-- A class with a method that returns a number, a class over it that binds the name of the method
to a text, and one that binds nothing. -/
def concealedMethod : List Stmt :=
  [ .classDef "A" [] [.function "f" (some [some "self"]) [.ret .integer]],
    .classDef "B" [.name (some "A")] [.assign [.mk [.name (some "f")] (some .text)]],
    .classDef "C" [.name (some "A")] [] ]

/-- The entry of the method. -/
def methodEntry : Entry :=
  ⟨some "f", some "A", some Host.integralType, some [], false⟩

/-- The classes are numbered after the one that stands for the type of `self`. -/
theorem classIds_concealedMethod :
    (ofStatements {} concealedMethod).store.classIds = [⟨0⟩, ⟨1⟩, ⟨2⟩, ⟨3⟩] := by
  decide +kernel

/-- Both the second and the third class have the first as their superclass. -/
theorem lineage_concealedMethod {id : ClassId} (h : id = ⟨2⟩ ∨ id = ⟨3⟩) :
    lineage {} (ofStatements {} concealedMethod).store (.script id) =
      [.script id, .script ⟨1⟩] := by
  have hfirst : superclasses {} (ofStatements {} concealedMethod).store
      ((ofStatements {} concealedMethod).store.cls ⟨1⟩) = [] := by decide +kernel
  rcases h with rfl | rfl
  · have hsecond : superclasses {} (ofStatements {} concealedMethod).store
        ((ofStatements {} concealedMethod).store.cls ⟨2⟩) = [.script ⟨1⟩] := by decide +kernel
    simp [lineage, lineageFrom, classIds_concealedMethod, hsecond, hfirst]
  · have hthird : superclasses {} (ofStatements {} concealedMethod).store
        ((ofStatements {} concealedMethod).store.cls ⟨3⟩) = [.script ⟨1⟩] := by decide +kernel
    simp [lineage, lineageFrom, classIds_concealedMethod, hthird, hfirst]

end Analysis

end ScriptScope
