import ScriptScope.Completion.Service
import ScriptScope.Proofs.Capture
import ScriptScope.Proofs.LastBody
import ScriptScope.Proofs.MemberOrigins
import ScriptScope.Proofs.UnreadNames

/-!
# The capture marker among the answers

The capture name is reserved: what starts with it is not meant to be offered.  The names and the
parameters that completion offers leave such names out.  The members do not, so it is for the store
not to have any.

In a script that uses no such name but for the capture at its end, the only one that gets anywhere
is the capture name itself.  It becomes a member of a class if the capture stands in the body of the
class and its value is a function or a class (`Analysis.traced`), and it is offered for every value
whose class reaches this one (`Store.Leaks`): `Completion.marker_offered`.
-/

namespace ScriptScope

/-- Whether a label starts with the capture name. -/
def Context.marks (ctx : Context) (label : Label) : Bool :=
  label.any (Text.startsWith · ctx.captureName)

/-- The outside sources report no member that starts with the capture name. -/
structure Context.Unmarked (ctx : Context) : Prop where
  host : ∀ type members, ctx.reflect type = some members →
    ∀ m ∈ members, ctx.marks (some m.name) = false
  modules : ∀ path members, ctx.moduleMembers path = some members →
    ∀ m ∈ members, ctx.marks (some m) = false
  builtins : ∀ name, ∀ m ∈ ctx.listedMembers name, ctx.marks (some m) = false

/-- The labels that a statement binds, or registers as members, by its text alone. -/
def Stmt.written (stmt : Stmt) : List Label :=
  stmt.binds {} ++ stmt.registered

/-- The name that is imported, if it is renamed. -/
def ImportItem.original? : ImportItem → Option Label
  | .renamed name _ => some name
  | .plain _ | .fault => none

/-- The labels that an assignment reads: those in its value, and the names of which it sets members.
-/
def Assignment.reads : Assignment → List Label
  | .mk targets value =>
    targets.filterMap (fun
      | .member root _ => some root
      | _ => none) ++ (value.map Expr.reads).getD []
  | .fault => []

/-- The labels that a statement reads, apart from its body. -/
def Stmt.reads : Stmt → List Label
  | .importNames items => items.filterMap ImportItem.original?
  | .importFrom source _ items => source.toList ++ items.filterMap ImportItem.original?
  | .assign items => items.flatMap Assignment.reads
  | .classDef _ bases _ => bases.flatMap Expr.reads
  | .ret value => value.reads
  | .function .. | .decorated _ | .control _ | .other | .fault => []

theorem Context.marks_captureName (ctx : Context) : ctx.marks (some ctx.captureName) = true := by
  simp [marks, Text.startsWith_iff]

/-- What a statement binds is written in it, or is a member of a module that it imports. -/
theorem Stmt.written_or_imported {ctx : Context} {stmt : Stmt} {label : Label}
    (h : label ∈ stmt.binds ctx) : label ∈ stmt.written ∨
      ∃ path members, ctx.moduleMembers path = some members ∧ ∃ m ∈ members, label = some m := by
  cases stmt with
  | importFrom source wildcard items =>
    match source, wildcard with
    | none, _ => simp [binds] at h
    | some none, _ => simp [binds] at h
    | some (some text), false => exact .inl (List.mem_append_left _ h)
    | some (some text), true =>
      rw [binds, List.mem_map] at h
      obtain ⟨m, hm, rfl⟩ := h
      obtain ⟨members, hmembers, hm⟩ : ∃ members,
          ctx.moduleMembers (Text.dropLeading '.' text) = some members ∧ m ∈ members := by
        cases hfound : ctx.moduleMembers (Text.dropLeading '.' text) with
        | none => simp [hfound] at hm
        | some members => exact ⟨members, rfl, by simpa [hfound] using hm⟩
      exact .inr ⟨_, members, hmembers, m, hm, rfl⟩
  | _ => exact .inl (List.mem_append_left _ h)

namespace Store

variable {ctx : Context} {st st' : Store} {s : ScopeId}

/-! ### One context -/

/-- All scopes have the same context. -/
def InContext (ctx : Context) (st : Store) : Prop :=
  ∀ t, st.HasScope t → (st.scope t).context = ctx

theorem Write.inContext {may : ScopeId → Prop} {names : Label → Prop} {terms : Terms}
    (h : Write may names terms st st') (hst : st.InContext ctx) : st'.InContext ctx := by
  intro t ht
  by_cases hold : st.HasScope t
  · rw [h.change.context t hold]
    exact hst t hold
  -- only opening a scope brings a new one
  cases h with
  | @opened u className allowed has =>
    have hnew : t = (st.addChild u className).1 := by
      refine ScopeId.ext ?_
      rw [HasScope, length_scopes_addChild] at ht
      rw [HasScope] at hold
      rw [index_addChild]
      omega
    rw [hnew, scope_addChild_new]
    exact hst u has
  | var allowed bound has held value => exact absurd (by simpa [HasScope] using ht) hold
  | imported allowed bound has => exact absurd (by simpa [HasScope] using ht) hold
  | made stands named => exact absurd (by simpa [HasScope] using ht) hold
  | closed name bases has => exact absurd (by simpa [HasScope] using ht) hold
  | grown id known => exact absurd (by simpa [HasScope] using ht) hold
  | unified isOpen has taker => exact absurd (by simpa [HasScope] using ht) hold

theorem WritesOn.inContext {may : ScopeId → Prop} {names : Label → Prop} {terms : Terms}
    (h : WritesOn may names terms st st') (hst : st.InContext ctx) : st'.InContext ctx := by
  induction h with
  | refl => exact hst
  | tail _ hwrite ih => exact hwrite.inContext ih

/-- A class that is made up anywhere is listed by the builtin symbols of the context. -/
theorem InContext.listedValue (h : st.InContext ctx) {name : String} {info : ClassInfo}
    (hinfo : st.builtin? s name = some info) : ListedValue ctx (.made info) := by
  by_cases hs : st.HasScope s
  · exact listedValue_of_builtin? (h s hs) hinfo
  -- without a scope there is no context to list anything
  · unfold builtin? builtinMembers at hinfo
    rw [scope_of_not_hasScope hs] at hinfo
    simp [Context.builtinEntries] at hinfo

/-! ### The class whose members a value has -/

/-- A value whose class reaches one that has the capture name as a member. -/
def Leaks (ctx : Context) (st : Store) (v : Value) : Prop :=
  ∃ start id, memberClass? ctx st v = some start ∧ Reaches ctx st start (.script id) ∧
    some ctx.captureName ∈ (st.cls id).members

theorem isClass_of_find {label : Label} {start : Ancestor}
    (h : ancestorOf? (st.find s label) = some start) : IsClass st start := by
  cases hfound : st.find s label with
  | made info =>
    rw [hfound] at h
    obtain ⟨-, text, -, htext⟩ := builtin?_of_find hfound
    rw [← Option.some.inj h]
    exact .builtin htext
  | held d =>
    rw [hfound] at h
    cases d with
    | script id =>
      rw [← Option.some.inj h]
      exact .stored id
    | _ => simp [ancestorOf?] at h

theorem isClass_of_classNamed? {typeName : String} {scope : Option ScopeId} {start : Ancestor}
    (h : classNamed? ctx st typeName scope = some start) : IsClass st start := by
  unfold classNamed? at h
  split at h
  · simp at h
  · obtain ⟨s, -, hs⟩ := Option.bind_eq_some_iff.mp h
    exact isClass_of_find hs

/-- What is found has the members of a class that a script can speak of, or of none. -/
theorem isClass_of_memberClass? {label : Label} {start : Ancestor}
    (h : memberClass? ctx st (st.find s label) = some start) : IsClass st start := by
  cases hfound : st.find s label with
  | made info =>
    have hclass : ancestorOf? (st.find s label) = some start := by
      rw [hfound] at h ⊢
      exact h
    exact isClass_of_find hclass
  | held d =>
    rw [hfound] at h
    cases d with
    | instanceOf typeName scope => exact isClass_of_classNamed? h
    | function fn =>
      obtain ⟨typeName, -, hclass⟩ := Option.bind_eq_some_iff.mp h
      exact isClass_of_classNamed? hclass
    | script id =>
      rw [← Option.some.inj h]
      exact .stored id
    | unknown => simp [memberClass?, ancestorOf?] at h
    | static name => simp [memberClass?, ancestorOf?] at h

/-! ### Members that no class has -/

section Unmarked

variable (hctx : ctx.Unmarked)

include hctx

theorem unmarked_host {type : String} {members : List Host.Member}
    (h : ctx.reflect type = some members) (keep : Host.Member → Bool) :
    ∀ e ∈ (members.filter keep).map Entry.ofHost, ctx.marks e.name = false := by
  intro e he
  obtain ⟨m, hm, rfl⟩ := List.mem_map.mp he
  exact hctx.host type members h m (List.mem_filter.mp hm).1

/-- The members of an imported name are reported from outside. -/
theorem unmarked_staticMembers (name : String) :
    ∀ e ∈ staticMembers ctx name, ctx.marks e.name = false := by
  unfold staticMembers
  split
  · rename_i members hmembers
    intro e he
    obtain ⟨m, hm, rfl⟩ := List.mem_map.mp he
    exact hctx.modules name members hmembers m hm
  · split
    · rename_i members hmembers
      exact unmarked_host hctx hmembers _
    · unfold resultMembers
      dsimp only
      split
      · simp
      · intro e he
        obtain ⟨type, -, he⟩ := List.mem_flatMap.mp he
        cases hmembers : ctx.reflect type with
        | none => simp [hmembers] at he
        | some members =>
          rw [hmembers] at he
          exact unmarked_host hctx hmembers _ e he

/-- Members that are reported from outside are not marked. -/
theorem unmarked_of_reported {entries : List Entry} (h : Reported ctx entries) :
    ∀ e ∈ entries, ctx.marks e.name = false := by
  cases h with
  | nothing => simp
  | imported name => exact unmarked_staticMembers hctx name
  | host hreflect => exact unmarked_host hctx hreflect _

/-- A marked name that a class offers is a member of a class of the store that it reaches. -/
theorem exists_of_marked (hst : st.InContext ctx) {start : Ancestor} (hstart : IsClass st start)
    {heap : Heap} {label : Label}
    (hlabel : label ∈ (classMembers ctx st start heap).map Entry.name)
    (hmarked : ctx.marks label = true) :
    ∃ id, Reaches ctx st start (.script id) ∧ label ∈ (st.cls id).members := by
  obtain ⟨a, hreach, c, hc, hoffer⟩ := exists_offer_of_mem_names hstart hlabel
  rcases hoffer with hmember | ⟨base, -, members, hmembers, m, hm, rfl⟩
  · have hclass := hstart.of_reaches hreach
    cases hclass with
    | stored id =>
      rw [← Option.some.inj hc] at hmember
      exact ⟨id, hreach, hmember⟩
    -- the builtin symbols list no such name
    | builtin hinfo =>
      rw [← Option.some.inj hc] at hmember
      obtain ⟨name, hlisted⟩ := hst.listedValue hinfo label hmember
      obtain ⟨m, hm, rfl⟩ := List.mem_map.mp hlisted
      rw [hctx.builtins name m hm] at hmarked
      simp at hmarked
  · rw [hctx.host base members hmembers m hm] at hmarked
    simp at hmarked

end Unmarked

end Store

namespace Analysis

open Store

variable {ctx : Context} {body before : List Stmt} {capture? : Option Expr}

theorem inContext_ofStatements (ctx : Context) (body : List Stmt) :
    (ofStatements ctx body).store.InContext ctx := by
  have hstand : Stands ctx (empty ctx).store (empty ctx).root := standing_empty ctx fun _ => trivial
  have hwrites : Leads (empty ctx).store (ofStatements ctx body).store :=
    hstand.writes_walkBody fun _ _ _ _ => trivial
  refine hwrites.inContext fun t ht => ?_
  have hzero : t = ⟨0⟩ := ScopeId.ext (Nat.lt_one_iff.mp ht)
  rw [hzero]
  rfl

/-- A readable script with a capture at its end comes to the capture last, and only the scope where
this stands binds its name. -/
theorem exists_lookup?_capture {e : Expr} (hread : Stmt.allReadable body = true)
    (hlast : Stmt.orderIn body = before ++ [.capture ctx.captureName e])
    (honly : ∀ stmt ∈ before, some ctx.captureName ∉ stmt.binds ctx) :
    ∃ v value, (visitsIn (empty ctx).root body (empty ctx).store).getLast? = some v ∧
      v.stmt = .capture ctx.captureName e ∧ v.before.infer v.scope e = some value ∧
      ∀ t, ((ofStatements ctx body).store.scope t).lookup? (some ctx.captureName) =
        if t = v.scope then some (v.before.hold value).1 else none := by
  have hstand : Stands ctx (empty ctx).store (empty ctx).root := standing_empty ctx fun _ => trivial
  have hall := Standing.exhausts_visitsIn body hstand hread
  rw [hlast] at hall
  obtain ⟨vs, v, hvisits, hbefore, hstmt, hcompleted⟩ := hall.exists_last
  have hends : EndsAt (· ≠ some ctx.captureName) (empty ctx).root (empty ctx).store
      (ofStatements ctx body).store v := by
    refine Standing.endsAt_walkBody body hstand hread hvisits fun x hx label hlabel he => ?_
    refine honly x.stmt (hbefore ▸ List.mem_map_of_mem hx) ?_
    rwa [he] at hlabel
  obtain ⟨value, hvalue⟩ : ∃ value, v.before.infer v.scope e = some value := by
    unfold Visit.outcome at hcompleted
    rw [hstmt] at hcompleted
    exact exists_infer_of_completed hcompleted
  have hhere : Stands ctx v.before v.scope :=
    Standing.of_mem_visitsIn body hstand v (by rw [hvisits]; simp)
  refine ⟨v, value, by rw [hvisits, List.getLast?_concat], hstmt, hvalue, ?_⟩
  exact hends.lookup?_capture hhere.has hstmt hvalue fun t => lookup?_empty ctx t _

/-- A script uses no name that starts with the capture name, but for a capture at its end. -/
structure Reserves (ctx : Context) (body before : List Stmt) (capture? : Option Expr) : Prop where
  order : Stmt.orderIn body = before ++ capture?.toList.map (Stmt.capture ctx.captureName)
  unused : ∀ stmt ∈ before, ∀ label ∈ stmt.written, ctx.marks label = false

section Reserves

variable (hctx : ctx.Unmarked) (h : Reserves ctx body before capture?)

include hctx h

theorem Reserves.unmarked_binds {stmt : Stmt} (hstmt : stmt ∈ before) {label : Label}
    (hlabel : label ∈ stmt.binds ctx) : ctx.marks label = false := by
  rcases Stmt.written_or_imported hlabel with hwritten | ⟨path, members, hmembers, m, hm, rfl⟩
  · exact h.unused stmt hstmt label hwritten
  · exact hctx.modules path members hmembers m hm

/-- A label that starts with the capture name is bound only by the capture. -/
theorem Reserves.eq_of_mem_binds {stmt : Stmt} (hstmt : stmt ∈ Stmt.orderIn body) {label : Label}
    (hlabel : label ∈ stmt.binds ctx) (hmarked : ctx.marks label = true) :
    label = some ctx.captureName ∧ capture?.isSome = true := by
  rw [h.order, List.mem_append] at hstmt
  rcases hstmt with hstmt | hstmt
  · rw [h.unmarked_binds hctx hstmt hlabel] at hmarked
    simp at hmarked
  · obtain ⟨e, he, rfl⟩ := List.mem_map.mp hstmt
    rw [Option.mem_toList] at he
    refine ⟨?_, by simp [he]⟩
    simpa [Stmt.capture, Stmt.binds, Assignment.bound, Pattern.assigned] using hlabel

/-- So no scope has another such variable. -/
theorem Reserves.eq_of_get? {t : ScopeId} {label : Label} {d : Descriptor}
    (hd : ((ofStatements ctx body).store.scope t).vars.get? label = some d)
    (hmarked : ctx.marks label = true) :
    label = some ctx.captureName ∧ capture?.isSome = true := by
  by_contra hno
  have hstand : Stands ctx (empty ctx).store (empty ctx).root := standing_empty ctx fun _ => trivial
  have hwrites : Writes (fun _ => True) (· ≠ label) (empty ctx).store
      (ofStatements ctx body).store := by
    refine hstand.writes_walkBody fun stmt hstmt other hother he => hno ?_
    exact h.eq_of_mem_binds hctx hstmt (he ▸ hother) hmarked
  rw [hwrites.change.vars t label (by simp)] at hd
  rcases scope_empty ctx t with e | e <;> simp [e, Bindings.get?] at hd

/-- A member that starts with the capture name is one that a class body defines. -/
theorem Reserves.bodyDefines {id : ClassId} {label : Label}
    (hlabel : label ∈ ((ofStatements ctx body).store.cls id).members)
    (hmarked : ctx.marks label = true) :
    ∃ t, ((ofStatements ctx body).store.cls id).scope = some t ∧
      (ofStatements ctx body).store.BodyDefines t label := by
  cases traced ctx body id label hlabel with
  | @registered stmt walked names =>
    rw [h.order, List.mem_append] at walked
    rcases walked with hstmt | hstmt
    · rw [h.unused stmt hstmt label (List.mem_append_right _ names)] at hmarked
      simp at hmarked
    · obtain ⟨e, -, rfl⟩ := List.mem_map.mp hstmt
      simp [Stmt.capture, Stmt.registered, Assignment.registered, Pattern.path] at names
  | @listed name lists =>
    obtain ⟨m, hm, rfl⟩ := List.mem_map.mp lists
    rw [hctx.builtins name m hm] at hmarked
    simp at hmarked
  | @defined t scope defines => exact ⟨t, scope, defines⟩

theorem Reserves.eq_of_mem_members {id : ClassId} {label : Label}
    (hlabel : label ∈ ((ofStatements ctx body).store.cls id).members)
    (hmarked : ctx.marks label = true) :
    label = some ctx.captureName ∧ capture?.isSome = true := by
  obtain ⟨t, -, -, d, hd, -⟩ := h.bodyDefines hctx hlabel hmarked
  exact h.eq_of_get? hctx hd hmarked

/-- A readable script comes to the capture last, and only the scope where this stands binds its
name, to the value that was captured. -/
theorem Reserves.exists_capture (hread : Stmt.allReadable body = true) {e : Expr}
    (he : capture? = some e) :
    ∃ v value, (visitsIn (empty ctx).root body (empty ctx).store).getLast? = some v ∧
      v.stmt = .capture ctx.captureName e ∧ v.before.infer v.scope e = some value ∧
      ∀ t, (ofStatements ctx body).store.BodyDefines t (some ctx.captureName) →
        t = v.scope ∧ value.isMember = true := by
  have honly : ∀ stmt ∈ before, some ctx.captureName ∉ stmt.binds ctx := by
    intro stmt hstmt hbinds
    have hfree := h.unmarked_binds hctx hstmt hbinds
    rw [ctx.marks_captureName] at hfree
    simp at hfree
  have hlast := h.order
  rw [he] at hlast
  obtain ⟨v, value, hv, hstmt, hvalue, hlookup⟩ := exists_lookup?_capture hread hlast honly
  refine ⟨v, value, hv, hstmt, hvalue, ?_⟩
  rintro t ⟨-, d, hd, hmember⟩
  have hfound := hlookup t
  rw [ScopeInfo.lookup?, hd] at hfound
  change some d = _ at hfound
  split at hfound
  · rename_i ht
    refine ⟨ht, ?_⟩
    rw [← isMember_hold v.before value, ← Option.some.inj hfound]
    exact hmember
  · simp at hfound

end Reserves

end Analysis

namespace Completion

open Store Analysis

/-! ### The four answers -/

/-- The entries that match a typed text are among those that were there. -/
theorem mem_of_mem_matching {seed : String} {entries found : List Entry}
    (h : Service.matching seed entries = some found) {entry : Entry} (hentry : entry ∈ found) :
    entry ∈ entries := by
  obtain ⟨named, hnamed, rfl⟩ := Option.map_eq_some_iff.mp h
  obtain ⟨pair, hpair, rfl⟩ := List.mem_map.mp hentry
  have hmem : pair ∈ named := by
    unfold suggest rank select at hpair
    rw [List.mem_mergeSort] at hpair
    exact (List.mem_filter.mp hpair).1
  obtain ⟨entry, horigin, hname⟩ := exists_of_mem_mapM hnamed hmem
  obtain ⟨name, -, rfl⟩ := Option.map_eq_some_iff.mp hname
  exact horigin

/-- What completion answers where a script ends: no name and no parameter that it offers starts with
the capture name, and a member does only if it is the capture name itself and the value leaks it.
Members are listed in any heap. -/
structure HidesMarker (service : Service) (a : Analysis) : Prop where
  names : ∀ start choices, service.namesIn a start = some choices →
    ∀ choice ∈ choices, service.context.marks (some choice.name) = false
  parameters : ∀ target hostTarget names,
    a.store.varsOfType a.last target hostTarget = some names →
    ∀ name ∈ names, service.context.marks (some name) = false
  members : ∀ name seed heap entries, service.membersIn a name seed heap = some entries →
    ∀ entry ∈ entries, service.context.marks entry.name = true →
      entry.name = some service.context.captureName ∧
        Leaks service.context a.store (a.store.find a.last (some name))
  /-- What leaks is offered. -/
  leaked : ∀ name heap, Leaks service.context a.store (a.store.find a.last (some name)) →
    some service.context.captureName ∈
      (Store.members service.context a.store (a.store.find a.last (some name)) heap).map Entry.name

theorem unmarked_namesIn (service : Service) {a : Analysis} {start : String}
    {choices : List NameChoice} (h : service.namesIn a start = some choices) :
    ∀ choice ∈ choices, service.context.marks (some choice.name) = false := by
  intro choice hchoice
  obtain ⟨found, -, rfl⟩ := Option.map_eq_some_iff.mp h
  obtain ⟨entry, hentry, rfl⟩ := List.mem_map.mp hchoice
  rw [List.mem_mergeSort] at hentry
  simpa [Context.marks] using (List.mem_filter.mp hentry).2

theorem unmarked_varsOfType {st : Store} {s : ScopeId} {ctx : Context} {target : String}
    {hostTarget : Option String} {names : List String} (hcontext : (st.scope s).context = ctx)
    (h : st.varsOfType s target hostTarget = some names) :
    ∀ name ∈ names, ctx.marks (some name) = false := by
  intro name hname
  obtain ⟨table, -, rfl⟩ := Option.map_eq_some_iff.mp h
  obtain ⟨⟨_, d⟩, hentry, rfl⟩ := List.mem_map.mp hname
  have hkept := (List.mem_filter.mp hentry).2
  rw [Bool.and_eq_true, hcontext] at hkept
  simpa [Context.marks] using hkept.1

/-- A marked member of what is found where the text ends is the capture name, and leaks. -/
theorem leaks_of_marked {ctx : Context} {body before : List Stmt} {capture? : Option Expr}
    (hctx : ctx.Unmarked) (h : Reserves ctx body before capture?) {s : ScopeId} {label : Label}
    {heap : Heap} {entry : Entry}
    (hentry : entry ∈ Store.members ctx (ofStatements ctx body).store
      ((ofStatements ctx body).store.find s label) heap)
    (hmarked : ctx.marks entry.name = true) :
    entry.name = some ctx.captureName ∧ Leaks ctx (ofStatements ctx body).store
      ((ofStatements ctx body).store.find s label) := by
  rcases members_cases ctx (ofStatements ctx body).store
    ((ofStatements ctx body).store.find s label) with ⟨start, hstart, hmembers⟩ |
      ⟨-, entries, hreported, hmembers⟩
  · rw [hmembers] at hentry
    obtain ⟨id, hreach, hid⟩ := exists_of_marked hctx (inContext_ofStatements ctx body)
      (isClass_of_memberClass? hstart) (List.mem_map_of_mem hentry) hmarked
    have hname := (h.eq_of_mem_members hctx hid hmarked).1
    exact ⟨hname, start, id, hstart, hreach, hname ▸ hid⟩
  · rw [hmembers] at hentry
    rw [unmarked_of_reported hctx hreported entry hentry] at hmarked
    simp at hmarked

/-- What leaks is among the members, since a class of the store is never passed over. -/
theorem mem_names_of_leaks {ctx : Context} {st : Store} {s : ScopeId} {label : Label}
    (h : Leaks ctx st (st.find s label)) (heap : Heap) :
    some ctx.captureName ∈ (Store.members ctx st (st.find s label) heap).map Entry.name := by
  obtain ⟨start, id, hstart, hreach, hid⟩ := h
  rcases members_cases ctx st (st.find s label) with ⟨other, hother, hmembers⟩ | ⟨hnone, -⟩
  · rw [← Option.some.inj (hstart.symm.trans hother)] at hmembers
    rw [hmembers, mem_names_classMembers_iff (isClass_of_memberClass? hstart)]
    exact ⟨_, hreach, ⟨st.cls id, rfl, .inl hid⟩, not_false⟩
  · rw [hnone] at hstart
    simp at hstart

/-- **When the capture marker is offered.**  Take a context whose sources report no name that starts
with the capture name, and any statements that write no such name, with or without a capture at
their end, wherever it stands.  The names and the parameters that completion offers never start with
the capture name.  A member does only if it is the capture name itself, and this is offered for
exactly the values whose class reaches, by naming superclasses, a class that has it as a member.
Such a class has the capture in its body, bound to a function or a class; if the statements can be
read, the body is the scope where the capture stands, and what was captured is a function or a
class. -/
theorem marker_offered (service : Service) (hctx : service.context.Unmarked)
    {body before : List Stmt} {capture? : Option Expr}
    (h : Reserves service.context body before capture?) :
    let ctx := service.context
    let a := ofStatements ctx body
    HidesMarker service a ∧
    (∀ id, some ctx.captureName ∈ (a.store.cls id).members → capture?.isSome = true ∧
      ∃ t, (a.store.cls id).scope = some t ∧ a.store.BodyDefines t (some ctx.captureName)) ∧
    (∀ e, capture? = some e → Stmt.allReadable body = true →
      ∃ v value, (visitsIn (empty ctx).root body (empty ctx).store).getLast? = some v ∧
        v.stmt = .capture ctx.captureName e ∧ v.before.infer v.scope e = some value ∧
        ∀ t, a.store.BodyDefines t (some ctx.captureName) →
          t = v.scope ∧ value.isMember = true) := by
  intro ctx a
  have hstand : Stands ctx (empty ctx).store (empty ctx).root := standing_empty ctx fun _ => trivial
  have hafter := hstand.after_walkBody body
  refine ⟨⟨?_, ?_, ?_, ?_⟩, ?_, ?_⟩
  · exact fun start choices hchoices => unmarked_namesIn service hchoices
  · intro target hostTarget names hnames
    have hlast : a.store.HasScope a.last := (mem_chain_last hafter.sound hafter.has).1
    exact unmarked_varsOfType (inContext_ofStatements ctx body a.last hlast) hnames
  · intro name seed heap entries hentries entry hentry hmarked
    exact leaks_of_marked hctx h (mem_of_mem_matching hentries hentry) hmarked
  · exact fun name heap hleaks => mem_names_of_leaks hleaks heap
  · intro id hid
    have hmarked := ctx.marks_captureName
    exact ⟨(h.eq_of_mem_members hctx hid hmarked).2, h.bodyDefines hctx hid hmarked⟩
  · exact fun e he hread => h.exists_capture hctx hread he

theorem unmarked_noSources : ({} : Context).Unmarked where
  host type members h := by simp [Context.reflect] at h
  modules path members h := by simp [Context.moduleMembers] at h
  builtins name m h := by simp [Context.listedMembers, Context.builtinEntries] at h

/-- A class with a capture of the receiver in a method. -/
def capturedReceiver : List Stmt :=
  [ .classDef "A" []
      [ .function "m" (some [some "self"])
          [ .assign [.mk [.member (some "self") [some "x"]] (some .integer)],
            .capture "____GRAB____" (.name (some "self")) ] ] ]

theorem marker_offered_receiver :
    let a := ofStatements {} capturedReceiver
    ({} : Context).Unmarked ∧
    Reserves {} capturedReceiver (Stmt.orderIn capturedReceiver).dropLast
      (some (.name (some "self"))) ∧
    HidesMarker ⟨{}, false⟩ a ∧
    ¬ Leaks {} a.store (a.store.find a.last (some "____GRAB____")) ∧
    (Store.members {} a.store (a.store.find a.last (some "____GRAB____"))).map Entry.name =
      [some "x", some "m"] := by
  intro a
  have hreserves : Reserves {} capturedReceiver (Stmt.orderIn capturedReceiver).dropLast
      (some (.name (some "self"))) := ⟨rfl, by decide⟩
  obtain ⟨hhides, -, -⟩ := marker_offered ⟨{}, false⟩ unmarked_noSources hreserves
  have hnames : (Store.members {} a.store (a.store.find a.last (some "____GRAB____"))).map
      Entry.name = [some "x", some "m"] := by cbv
  refine ⟨unmarked_noSources, hreserves, hhides, fun hleaks => ?_, hnames⟩
  have hoffered := hhides.leaked "____GRAB____" .ample hleaks
  rw [hnames] at hoffered
  simp at hoffered

/-- A class whose superclass is defined again behind it, with a capture of the class in the new
body. -/
def capturedSubclass : List Stmt :=
  [ .classDef "B" [] [.other],
    .classDef "A" [.name (some "B")] [.other],
    .classDef "B" [] [.capture "____GRAB____" (.name (some "A"))] ]

/-- The superclass is looked up by name when the members are asked for, and then it is the class
that has the capture in its body. -/
theorem not_marker_hidden :
    ¬ ∀ (service : Service) (body before : List Stmt) (e : Expr), service.context.Unmarked →
      Reserves service.context body before (some e) →
      (∀ stmt ∈ before, ∀ label ∈ stmt.reads, service.context.marks label = false) →
      (∀ label ∈ e.reads, service.context.marks label = false) → ∀ entries,
      service.membersIn (ofStatements service.context body) service.context.captureName "" =
        some entries → ∀ entry ∈ entries, service.context.marks entry.name = false := by
  intro h
  have hmembers : Store.members {} (ofStatements {} capturedSubclass).store
      ((ofStatements {} capturedSubclass).store.find (ofStatements {} capturedSubclass).last
        (some "____GRAB____")) =
      [⟨some "____GRAB____", some "B", some "A", some [], false⟩] := by cbv
  have hentries : (Service.mk {} false).membersIn (ofStatements {} capturedSubclass)
      "____GRAB____" "" = some [⟨some "____GRAB____", some "B", some "A", some [], false⟩] := by
    unfold Service.membersIn
    rw [hmembers]
    decide +kernel
  have hunmarked := h ⟨{}, false⟩ capturedSubclass (Stmt.orderIn capturedSubclass).dropLast
    (.name (some "A")) unmarked_noSources ⟨rfl, by decide⟩ (by decide) (by decide) _ hentries _
    (List.mem_singleton_self _)
  revert hunmarked
  decide

end Completion

end ScriptScope
