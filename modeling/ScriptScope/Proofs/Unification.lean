import ScriptScope.Inference.Build
import ScriptScope.Proofs.Endings
import ScriptScope.Proofs.Superclasses

/-!
# Receivers become their class

When a class statement ends, its methods' receivers are unified with the class.  `Unified` says what
this does to the classes of the store: the class gains the members of the receivers, each receiver
becomes the class, and no other class changes (`unified_spread_gather`).  A receiver and its class
have the same members from then on, and reach the same names in every context
(`Unified.mem_members_iff`, `Unified.exists_offer_iff`).

The main result is `walkStmt_classDef_unified`: every class statement ends in this way.  A receiver
and its class then offer the same names, but for those of classes that are passed over when the
members of one of them are listed.
-/

namespace ScriptScope.Store

/-- What unifying the receivers `found` with a class does to the classes of a store.  The names in
`own` are those that the body of the class defines. -/
structure Unified (before after : Store) (own : List Label) (c : ClassId) (found : List ClassId) :
    Prop where
  /-- The class has its own members, and then those of the receivers, each once. -/
  members : (after.cls c).members =
    firstBy id (own ++ found.flatMap (fun p => (before.cls p).members))
  /-- A receiver is the class in all but the order of its members: it keeps those it had in front.
  -/
  receiver : ∀ p ∈ found, after.cls p = { after.cls c with
    members := (before.cls p).members ++
      (after.cls c).members.filter (fun m => m ∉ (before.cls p).members) }
  /-- Other classes are as before. -/
  elsewhere : ∀ q, q ≠ c → q ∉ found → after.cls q = before.cls q

variable {before after : Store} {own : List Label} {c : ClassId} {found : List ClassId}

/-- What a receiver had was gathered. -/
theorem Unified.mem_members (h : Unified before after own c found) {p : ClassId} (hp : p ∈ found)
    {m : Label} (hm : m ∈ (before.cls p).members) : m ∈ (after.cls c).members := by
  rw [h.members, ← nil_addNew, mem_addNew]
  exact .inr (List.mem_append_right _ (List.mem_flatMap.mpr ⟨p, hp, hm⟩))

/-- A receiver has the members of its class. -/
theorem Unified.mem_members_iff (h : Unified before after own c found) {p : ClassId}
    (hp : p ∈ found) (m : Label) : m ∈ (after.cls p).members ↔ m ∈ (after.cls c).members := by
  rw [h.receiver p hp, List.mem_append, List.mem_filter, decide_eq_true_eq]
  constructor
  · rintro (hold | ⟨hclass, -⟩)
    · exact h.mem_members hp hold
    · exact hclass
  · intro hclass
    by_cases hold : m ∈ (before.cls p).members
    · exact .inl hold
    · exact .inr ⟨hclass, hold⟩

/-- A receiver reaches the names that its class reaches. -/
theorem Unified.exists_offer_iff (h : Unified before after own c found) {p : ClassId}
    (hp : p ∈ found) (ctx : Context) (name : Label) :
    (∃ a, Reaches ctx after (.script p) a ∧ Offers ctx after a name) ↔
      ∃ a, Reaches ctx after (.script c) a ∧ Offers ctx after a name := by
  have hbases : (after.cls p).bases = (after.cls c).bases := by rw [h.receiver p hp]
  have hscope : (after.cls p).scope = (after.cls c).scope := by rw [h.receiver p hp]
  constructor
  · exact exists_offer_congr hbases hscope fun m => (h.mem_members_iff hp m).mp
  · exact exists_offer_congr hbases.symm hscope.symm fun m => (h.mem_members_iff hp m).mpr

/-- Two classes offer the same names, each of them listed in a heap of its own: a name that only
one of them offers is hidden from the other, and where no address comes back there is none. -/
structure OfferAlike (ctx : Context) (st : Store) (p c : Ancestor) : Prop where
  left : ∀ heap heap' name, name ∈ (classMembers ctx st p heap).map Entry.name →
    name ∈ (classMembers ctx st c heap').map Entry.name ∨ Hides ctx st c heap' name
  right : ∀ heap heap' name, name ∈ (classMembers ctx st c heap').map Entry.name →
    name ∈ (classMembers ctx st p heap).map Entry.name ∨ Hides ctx st p heap name
  same : ∀ heap heap', KeepsApart (stops ctx st p heap) →
    KeepsApart (stops ctx st c heap') →
    ∀ name, name ∈ (classMembers ctx st p heap).map Entry.name ↔
      name ∈ (classMembers ctx st c heap').map Entry.name

/-- A receiver and its class offer the same names. -/
theorem Unified.offerAlike (h : Unified before after own c found) {p : ClassId} (hp : p ∈ found)
    (ctx : Context) : OfferAlike ctx after (.script p) (.script c) where
  left _ _ name hname := by
    have hoffer := exists_offer_of_mem_names (.stored p) hname
    exact mem_names_or_hides (.stored c) ((h.exists_offer_iff hp ctx name).mp hoffer)
  right _ _ name hname := by
    have hoffer := exists_offer_of_mem_names (.stored c) hname
    exact mem_names_or_hides (.stored p) ((h.exists_offer_iff hp ctx name).mpr hoffer)
  same _ _ happart happart' name := by
    rw [mem_names_iff_of_keepsApart (.stored p) happart,
      mem_names_iff_of_keepsApart (.stored c) happart', h.exists_offer_iff hp ctx name]

/-- Names that are defined once are members once. -/
theorem nodup_ownMembers {table : Bindings} (h : table.names.Nodup) : (ownMembers table).Nodup :=
  h.sublist (List.filter_sublist.map _)

/-- The two rounds unify, if the class is new and the receivers are not. -/
theorem unified_spread_gather {st : Store} (info : ClassInfo) (hinfo : info.members.Nodup)
    (hnodup : found.Nodup) (hold : ∀ p ∈ found, st.HasClass p) :
    Unified st (((st.addClass info).2.gather (st.addClass info).1 found).spread
        (st.addClass info).1 found) info.members (st.addClass info).1 found ∧
      ∃ members, (((st.addClass info).2.gather (st.addClass info).1 found).spread
        (st.addClass info).1 found).cls (st.addClass info).1 = { info with members } := by
  set c := (st.addClass info).1 with hid
  set opened := (st.addClass info).2 with hopened
  have hne : ∀ p ∈ found, p ≠ c := by
    intro p hp e
    have := hold p hp
    rw [e] at this
    exact Nat.lt_irrefl _ this
  have hnew : c ∉ found := fun h => hne c h rfl
  have hhas : opened.HasClass c := by simp [HasClass, hid, hopened]
  -- the first round reads the receivers as they were
  have hgathered : (opened.gather c found).cls c =
      info.putAll (found.flatMap (fun p => (st.cls p).members)) := by
    rw [cls_gather_self hnew opened hhas, cls_addClass_new]
    congr 1
    exact List.flatMap_congr fun p hp => by rw [cls_addClass_of_ne st (hne p hp)]
  have hothers : ∀ q, q ≠ c → (opened.gather c found).cls q = st.cls q := by
    intro q hq
    rw [cls_gather_of_ne hq, cls_addClass_of_ne st hq]
  -- and the second one leaves the class alone
  have hspread := cls_spread hnew hnodup (opened.gather c found) fun p hp => by
    have := hold p hp
    simp only [HasClass, length_classes_gather, hopened, length_classes_addClass] at this ⊢
    omega
  have hclass : ((opened.gather c found).spread c found).cls c =
      info.putAll (found.flatMap (fun p => (st.cls p).members)) := by
    rw [hspread, ite_cond_eq_false _ _ (eq_false hnew), hgathered]
  have hmembers : (info.putAll (found.flatMap (fun p => (st.cls p).members))).members =
      firstBy id (info.members ++ found.flatMap (fun p => (st.cls p).members)) := by
    rw [ClassInfo.members_putAll, addNew_eq_firstBy hinfo]
  refine ⟨⟨?_, ?_, ?_⟩, ?_⟩
  · rw [hclass, hmembers]
  · intro p hp
    rw [hclass, hspread, ite_cond_eq_true _ _ (eq_true hp), hgathered, hothers p (hne p hp),
      ClassInfo.become_eq]
    rw [hmembers]
    simpa using nodup_firstBy_keys id (info.members ++ found.flatMap (fun p => (st.cls p).members))
  · intro q hq hno
    rw [hspread, ite_cond_eq_false _ _ (eq_false hno), hothers q hq]
  · exact ⟨_, by rw [hclass, ClassInfo.putAll_eq]⟩

/-- How a class statement ends, once its body is walked and its superclasses are known: the body
makes a new class, which is unified with its receivers and bound outside. -/
theorem exists_unified_classEnd {st : Store} {s : ScopeId} {name : String} {bases : List Expr}
    {body : List Stmt} {superclasses : List String}
    (hmid : (st.innerWalk s (some name) [] body).Sound)
    (hbases : (st.innerWalk s (some name) [] body).baseNames s bases = some superclasses) :
    let inner := (st.addChild s (some name)).1
    let mid := st.innerWalk s (some name) [] body
    let table := (mid.scope inner).vars
    let out := walkStmt s (.classDef name bases body) st
    ∃ c members, ¬ mid.HasClass c ∧ out.completed = true ∧
      out.store.scopes = (mid.bindVar s (some name) (.script c)).scopes ∧
      out.store.cls c = ⟨name, superclasses, constructorParams table, members, some inner⟩ ∧
      Unified mid out.store (ownMembers table) c (mid.receivers table) := by
  intro inner mid table out
  set info := mid.classOfBody inner name superclasses
  set c := (mid.addClass info).1
  have hout : out = .done ((((mid.addClass info).2.gather c (mid.receivers table)).spread c
      (mid.receivers table)).bindVar s (some name) (.script c)) := by
    show walkStmt s (.classDef name bases body) st = _
    rw [walkStmt_classDef_eq, hbases]
    exact closeClass_eq hmid s inner name superclasses
  have hold : ∀ p ∈ mid.receivers table, mid.HasClass p := by
    intro p hp
    obtain ⟨b, -, hb⟩ := mem_receivers_iff.mp hp
    exact hb.hasClass
  obtain ⟨hunified, members, hclass⟩ := unified_spread_gather info
    (nodup_ownMembers (hmid.vars inner).nodup) (nodup_receivers _) hold
  refine ⟨c, members, Nat.lt_irrefl _, by rw [hout]; rfl, ?_, ?_, ?_⟩
  · rw [hout]
    unfold Outcome.done bindVar modifyScope
    simp only [scopes_spread, scopes_gather, scopes_addClass]
  · rw [hout]
    exact hclass
  · rw [hout]
    exact ⟨hunified.members, hunified.receiver, hunified.elsewhere⟩

/-- **A class statement unifies the receivers of its methods with the class.**  `mid` is the store
after the body was walked, and `table` is what the body binds.  Whatever the scopes and classes of
the store were before, the statement comes to its end and binds a new class.  Its receivers are
those placeholders that the first parameter of a method in `table` is still bound to; they are
unified with the class, and from then on they cannot be told apart from it by their members, nor, in
any context and any heap, by the names that they offer and that are not hidden.  Apart from these
classes and from the binding, nothing has changed. -/
theorem walkStmt_classDef_unified {st : Store} {s : ScopeId} (hst : st.Sound) (hs : st.HasScope s)
    {name : String} {bases : List Expr} {body : List Stmt}
    (h : (Stmt.classDef name bases body).readable = true) :
    let inner := (st.addChild s (some name)).1
    let mid := walkBody inner body (st.addChild s (some name)).2
    let table := (mid.scope inner).vars
    let found := mid.receivers table
    let out := walkStmt s (.classDef name bases body) st
    out.completed = true ∧ found.Nodup ∧
    (∀ p, p ∈ found ↔ ∃ b ∈ table, mid.IsReceiver b.2 p) ∧
    ∃ c superclasses members, ¬ mid.HasClass c ∧ mid.baseNames s bases = some superclasses ∧
      out.store.cls c = ⟨name, superclasses, constructorParams table, members, some inner⟩ ∧
      Unified mid out.store (ownMembers table) c found ∧
      (∀ p ∈ found, ∀ m, m ∈ (out.store.cls p).members ↔ m ∈ (out.store.cls c).members) ∧
      (∀ p ∈ found, ∀ ctx, OfferAlike ctx out.store (.script p) (.script c)) ∧
      (out.store.scope s).vars.get? (some name) = some (.script c) ∧
      ∀ t, out.store.scope t = (mid.bindVar s (some name) (.script c)).scope t := by
  intro inner mid table found out
  have hstanding : Standing (st.scope s).context (fun _ => True) st s :=
    ⟨hst, hs, rfl, trivial, fun _ _ => trivial⟩
  have hmid : Standing (st.scope s).context (fun _ => True) mid s :=
    hstanding.after_innerWalk (some name) [] body
  rw [Stmt.readable, Bool.and_eq_true] at h
  obtain ⟨superclasses, hbases, -⟩ := exists_walkStmt_classDef s name h.1 body st
  obtain ⟨c, members, hnew, hcompleted, hscopes, hclass, hunified⟩ :=
    exists_unified_classEnd hmid.sound hbases
  have hsame : ∀ t, out.store.scope t = (mid.bindVar s (some name) (.script c)).scope t :=
    scope_of_scopes_eq hscopes
  refine ⟨hcompleted, nodup_receivers table, fun p => mem_receivers_iff, c, superclasses, members,
    hnew, hbases, hclass, hunified, ?_, ?_, ?_, hsame⟩
  · exact fun p hp m => hunified.mem_members_iff hp m
  · exact fun p hp ctx => hunified.offerAlike hp ctx
  · rw [hsame s, vars_bindVar_self mid _ _ hmid.has, Bindings.get?_bind]
    simp

/-- A class whose first method is bound under two names and registers a member through another name
for its receiver. -/
def aliasedReceiver : Stmt :=
  .classDef "C" []
    [ .function "f" (some [some "self"])
        [ .assign [.mk [.name (some "other")] (some (.name (some "self")))],
          .assign [.mk [.member (some "other") [some "x"]] (some .integer)] ],
      .assign [.mk [.name (some "g")] (some (.name (some "f")))],
      .function "h" (some [some "me"])
        [.assign [.mk [.member (some "me") [some "y"]] (some .integer)]] ]

theorem walkStmt_aliasedReceiver_unified :
    (Analysis.empty {}).store.Sound ∧ (Analysis.empty {}).store.HasScope ⟨0⟩ ∧
    aliasedReceiver.readable = true ∧
    let fin := (walkStmt ⟨0⟩ aliasedReceiver (Analysis.empty {}).store).store
    ∃ c, (fin.scope ⟨0⟩).vars.get? (some "C") = some (.script c) ∧
      (fin.cls c).members = [some "f", some "g", some "h", some "x", some "y"] ∧
      (∀ p ∈ [(⟨0⟩ : ClassId), ⟨1⟩], ∀ m, m ∈ (fin.cls p).members ↔ m ∈ (fin.cls c).members) ∧
      ∀ p ∈ [(⟨0⟩ : ClassId), ⟨1⟩], ∀ ctx, OfferAlike ctx fin (.script p) (.script c) := by
  have hsound : (Analysis.empty {}).store.Sound := Analysis.sound_empty {}
  have hhas : (Analysis.empty {}).store.HasScope ⟨0⟩ := by decide
  have hread : aliasedReceiver.readable = true := by decide
  obtain ⟨-, -, -, c, _, _, -, -, -, hunified, hsame, hnames, hbound, -⟩ :=
    walkStmt_classDef_unified hsound hhas hread
  refine ⟨hsound, hhas, hread, c, hbound, hunified.members.trans (by decide +kernel), ?_, ?_⟩
  · intro p hp
    refine hsame p ?_
    revert p
    decide +kernel
  · intro p hp
    refine hnames p ?_
    revert p
    decide +kernel

/-- A class over a builtin class, and a class that is to be defined again. -/
def overBuiltin : List Stmt :=
  [.classDef "A" [.name (some "dict")] [.other], .classDef "C" [] [.other]]

/-- A class over both, whose second superclass is itself by then, and over another builtin class. -/
def redefinedOverBuiltins : Stmt :=
  .classDef "C" [.name (some "A"), .name (some "C"), .name (some "str")]
    [.function "m" (some [some "self"]) [.other]]

/-- The store with these classes.  The last one, number 3, comes after the receiver of its method. -/
def redefinedStore : Store :=
  (walkStmt ⟨0⟩ redefinedOverBuiltins (Analysis.ofStatements builtinPair overBuiltin).store).store

theorem stops_redefinedStore :
    stops builtinPair redefinedStore (.script ⟨3⟩) .recycling =
      [ .script ⟨3⟩, .script ⟨0⟩, .made (builtinClass "dict" "__class_getitem__") 1,
        .made (builtinClass "str" "__getattribute__") 1 ] ∧
    stops builtinPair redefinedStore (.script ⟨2⟩) .recycling =
      [ .script ⟨2⟩, .script ⟨0⟩, .made (builtinClass "dict" "__class_getitem__") 1, .script ⟨3⟩,
        .made (builtinClass "str" "__getattribute__") 2,
        .made (builtinClass "str" "__getattribute__") 2 ] := by
  have hids : redefinedStore.classIds = [⟨0⟩, ⟨1⟩, ⟨2⟩, ⟨3⟩] := by decide +kernel
  have hfirst : turns builtinPair redefinedStore (redefinedStore.cls ⟨0⟩) =
      [some (.made (builtinClass "dict" "__class_getitem__"))] := by decide +kernel
  have hlast : ∀ id ∈ [(⟨2⟩ : ClassId), ⟨3⟩],
      turns builtinPair redefinedStore (redefinedStore.cls id) =
        [ some (.script ⟨0⟩), some (.script ⟨3⟩),
          some (.made (builtinClass "str" "__getattribute__")) ] := by decide +kernel
  simp [stops, stopsFrom, hids, hfirst, hlast, Heap.recycling, Heap.above]

/-- From the class, the class made up for `str` comes to lie where the one for `dict` was.  From the
receiver, the listing comes to the class in between. -/
theorem not_offered_alike :
    ¬ ∀ (ctx : Context) (heap : Heap) (st : Store) (s : ScopeId) (name : String)
      (bases : List Expr) (body : List Stmt), st.Sound → st.HasScope s →
      (Stmt.classDef name bases body).readable = true →
      ∀ c p, ((walkStmt s (.classDef name bases body) st).store.scope s).vars.get? (some name) =
          some (.script c) →
        p ∈ (st.innerWalk s (some name) [] body).receivers
          ((st.innerWalk s (some name) [] body).scope (st.addChild s (some name)).1).vars →
        ∀ n, n ∈ (classMembers ctx (walkStmt s (.classDef name bases body) st).store (.script p)
            heap).map Entry.name →
          n ∈ (classMembers ctx (walkStmt s (.classDef name bases body) st).store (.script c)
            heap).map Entry.name := by
  intro h
  have hstand : Standing builtinPair (fun _ => True)
      (Analysis.ofStatements builtinPair overBuiltin).store ⟨0⟩ :=
    (Analysis.standing_empty builtinPair fun _ => trivial).after_walkBody overBuiltin
  have hreceiver : some "__getattribute__" ∈
      (classMembers builtinPair redefinedStore (.script ⟨2⟩) .recycling).map Entry.name := by
    rw [classMembers, listing, stops_redefinedStore.2]
    decide +kernel
  have hclass : some "__getattribute__" ∉
      (classMembers builtinPair redefinedStore (.script ⟨3⟩) .recycling).map Entry.name := by
    rw [classMembers, listing, stops_redefinedStore.1]
    decide +kernel
  exact hclass (h builtinPair .recycling _ ⟨0⟩ "C" _ _ hstand.sound hstand.has (by decide) ⟨3⟩ ⟨2⟩
    (by decide +kernel) (by decide +kernel) _ hreceiver)

end ScriptScope.Store
