import ScriptScope.Proofs.Endings
import ScriptScope.Proofs.UnreadNames

/-!
# Taking sequences apart

An assignment such as `a, (b, c) = x, (y, z)` pairs each name with a value.  The values of the names
of one group are inferred before the first of these names is bound.  A group inside another has its
turn when the names before it are bound already, and so has a target after another one:
`Assignment.pairings` lists the names with their values, and with the names that are bound when the
value is inferred.

In the end each name is bound to what its value, the last one if it has several, is inferred to be
at that time (`walkAssignment_destructured`).  If the names bound by then are not read for it, this
is what it is inferred to be before the assignment; otherwise it need not be
(`not_evaluated_first`).
-/

namespace ScriptScope

/-! ### Names and their values -/

/-- A name that an assignment binds. -/
structure Pairing where
  label : Label
  value : Expr
  /-- The names that the assignment has bound when it infers the value. -/
  earlier : List Label

namespace Pattern

mutual

/-- The names that taking a value apart binds, from left to right, if some are bound before. -/
def pairings : List Label → Pattern → Expr → List Pairing
  | earlier, .group items, .sequence values =>
    if items.length ≠ values.length ∨ items.any (·.isSplat) ∨ values.any (·.isSplat) then []
    else pairingsInGroup earlier earlier items values
  | _, _, _ => []

/-- The names that the targets of a group bind: `start` are bound when the turn of the group comes,
and `earlier` when that of its next target does. -/
def pairingsInGroup (start : List Label) : List Label → List Pattern → List Expr → List Pairing
  | earlier, .name label :: rest, value :: others =>
    ⟨label, value, start⟩ :: pairingsInGroup start (earlier ++ [label]) rest others
  | earlier, item :: rest, value :: others =>
    pairings earlier item value ++ pairingsInGroup start (earlier ++ item.bound value) rest others
  | _, _, _ => []

end

/-- A target in a group that is not a name is taken apart. -/
theorem pairingsInGroup_cons {item : Pattern} (hitem : ∀ label, item ≠ .name label)
    (start earlier : List Label) (rest : List Pattern) (value : Expr) (others : List Expr) :
    pairingsInGroup start earlier (item :: rest) (value :: others) =
      pairings earlier item value ++
        pairingsInGroup start (earlier ++ item.bound value) rest others := by
  rw [pairingsInGroup]
  exact fun label => hitem label

mutual

theorem map_label_pairings (earlier : List Label) (target : Pattern) (value : Expr) :
    (target.pairings earlier value).map Pairing.label = target.bound value := by
  cases target with
  | group items =>
    cases value with
    | sequence values =>
      rw [pairings, bound]
      split
      · rfl
      · exact map_label_pairingsInGroup earlier earlier items values
    | _ => rfl
  | _ => rfl

theorem map_label_pairingsInGroup (start earlier : List Label) (items : List Pattern)
    (values : List Expr) :
    (pairingsInGroup start earlier items values).map Pairing.label = boundInGroup items values := by
  match items, values with
  | [], _ =>
    rw [pairingsInGroup, boundInGroup]
    · rfl
    all_goals simp
  | _ :: _, [] =>
    rw [pairingsInGroup, boundInGroup]
    · rfl
    all_goals simp
  | item :: rest, value :: others =>
    by_cases hitem : ∃ label, item = .name label
    · obtain ⟨label, rfl⟩ := hitem
      rw [pairingsInGroup, boundInGroup, List.map_cons, map_label_pairingsInGroup]
    · have hitem' : ∀ label, item ≠ .name label := fun label e => hitem ⟨label, e⟩
      rw [pairingsInGroup_cons hitem', boundInGroup_cons hitem', List.map_append,
        map_label_pairings, map_label_pairingsInGroup]

end

/-- The names that a target of an assignment binds, if some are bound before. -/
def assignedPairings (value : Expr) (earlier : List Label) : Pattern → List Pairing
  | .name label => [⟨label, value, earlier⟩]
  | .group items => (group items).pairings earlier value
  | .splat _ | .member _ _ | .other | .fault => []

theorem map_label_assignedPairings (value : Expr) (earlier : List Label) (target : Pattern) :
    (target.assignedPairings value earlier).map Pairing.label = target.assigned value := by
  cases target with
  | group items => exact map_label_pairings earlier (.group items) value
  | _ => rfl

/-- The names that targets one after another bind, if some are bound before. -/
def pairingsOfTargets (value : Expr) : List Label → List Pattern → List Pairing
  | _, [] => []
  | earlier, target :: rest =>
    target.assignedPairings value earlier ++
      pairingsOfTargets value (earlier ++ target.assigned value) rest

theorem map_label_pairingsOfTargets (value : Expr) (earlier : List Label)
    (targets : List Pattern) :
    (pairingsOfTargets value earlier targets).map Pairing.label =
      targets.flatMap (assigned value) := by
  induction targets generalizing earlier with
  | nil => rfl
  | cons target rest ih =>
    rw [pairingsOfTargets, List.map_append, map_label_assignedPairings, ih, List.flatMap_cons]

end Pattern

/-- The names that an assignment binds, from left to right. -/
def Assignment.pairings : Assignment → List Pairing
  | .mk targets (some value) => Pattern.pairingsOfTargets value [] targets
  | .mk _ none | .fault => []

namespace Store

variable {st₀ st st' st'' : Store} {s : ScopeId} {labels : List Label} {ps qs : List Pairing}

/-! ### Bound values -/

/-- A descriptor that stands for a value.  A class that was made up is in the store by then, perhaps
with more members. -/
def StandsFor (st : Store) (d : Descriptor) : Value → Prop
  | .held e => d = e
  | .made info => ∃ id, d = .script id ∧ st.HasClass id ∧ info.SameIdentity (st.cls id)

/-- A variable of a scope is bound to a value. -/
def BoundTo (st : Store) (s : ScopeId) (label : Label) (v : Value) : Prop :=
  ∃ d, (st.scope s).vars.get? label = some d ∧ st.StandsFor d v

/-- A variable keeps its value while others are bound. -/
theorem BoundTo.since {label : Label} {v : Value} (hbound : st.BoundTo s label v)
    (h : Since labels s st st') (hlabel : label ∉ labels) : st'.BoundTo s label v := by
  obtain ⟨d, hd, hstands⟩ := hbound
  refine ⟨d, (h.vars label hlabel).trans hd, ?_⟩
  cases v with
  | held e => exact hstands
  | made info =>
    obtain ⟨id, rfl, hid, hsame⟩ := hstands
    exact ⟨id, rfl, h.hasClass hid, hsame.trans (h.classes id hid)⟩

theorem Since.holdsValue (h : Since labels s st st') {v : Value} (hv : st.HoldsValue v) :
    st'.HoldsValue v := by
  cases v with
  | held d => exact Holds.mono (Nat.le_of_eq h.length_scopes.symm) h.classes_le hv
  | made info => exact fun t ht => h.hasScope (hv t ht)

section Assign

variable (hs : st.HasScope s) (label : Label) (v : Value)

include hs

theorem since_assign : Since [label] s st (st.assign s label v) :=
  (since_hold v).append (since_bindVar ((since_hold (s := s) v).hasScope hs) label _)

theorem boundTo_assign : (st.assign s label v).BoundTo s label v := by
  refine ⟨(st.hold v).1, ?_, ?_⟩
  · unfold assign
    rw [vars_bindVar_self _ _ _ ((since_hold (s := s) v).hasScope hs), Bindings.get?_bind]
    simp
  · cases v with
    | held d => rfl
    | made info =>
      refine ⟨(st.addClass info).1, rfl, ?_, ?_⟩
      · simp [assign, hold, HasClass]
      · rw [show (st.assign s label (.made info)).cls (st.addClass info).1 = info from
          st.cls_addClass_new info]
        exact .refl info

theorem Sound.assign (hst : st.Sound) {v : Value} (hv : st.HoldsValue v) :
    (st.assign s label v).Sound := by
  cases v with
  | held d => exact hst.bindVar label hs hv
  | made info => exact (hst.addClass hv).bindVar label hs (by simp [hold, Holds, HasClass])

end Assign

/-! ### Steps of an assignment -/

/-- A name is bound to what its value was inferred to be, at a time when no names were bound but
those that the pairing lists. -/
def Paired (st₀ : Store) (s : ScopeId) (st : Store) (p : Pairing) : Prop :=
  ∃ turn v, Since p.earlier s st₀ turn ∧ turn.infer s p.value = some v ∧ st.BoundTo s p.label v

/-- Each name is bound to the last value that it is paired with. -/
def Settled (st₀ : Store) (s : ScopeId) (st : Store) (ps : List Pairing) : Prop :=
  ∀ before p after, ps = before ++ p :: after → p.label ∉ after.map Pairing.label →
    Paired st₀ s st p

/-- A part of an assignment that started in `st₀`: it binds the names of some pairings and leaves
them settled. -/
structure Step (st₀ : Store) (s : ScopeId) (ps : List Pairing) (st st' : Store) : Prop where
  sound : st'.Sound
  since : Since (ps.map Pairing.label) s st st'
  settled : Settled st₀ s st' ps

theorem Step.of_since (hst : st'.Sound) (h : Since [] s st st') : Step st₀ s [] st st' := by
  refine ⟨hst, h, fun before p after hnil => ?_⟩
  simp at hnil

/-- What is settled and not bound again stays settled. -/
theorem Settled.append (h : Settled st₀ s st ps) (hsince : Since (qs.map Pairing.label) s st st')
    (h' : Settled st₀ s st' qs) : Settled st₀ s st' (ps ++ qs) := by
  intro before p after hsplit hlast
  rcases List.append_eq_append_iff.mp hsplit with ⟨middle, rfl, hqs⟩ | ⟨middle, hps, hafter⟩
  · exact h' middle p after hqs hlast
  · cases middle with
    | nil =>
      exact h' [] p after hafter.symm hlast
    | cons q rest =>
      rw [List.cons_append, List.cons.injEq] at hafter
      obtain ⟨rfl, rfl⟩ := hafter
      rw [List.map_append, List.mem_append, not_or] at hlast
      obtain ⟨turn, v, hturn, hv, hbound⟩ := h before p rest hps hlast.1
      exact ⟨turn, v, hturn, hv, hbound.since hsince hlast.2⟩

theorem Step.append (h : Step st₀ s ps st st') (h' : Step st₀ s qs st' st'') :
    Step st₀ s (ps ++ qs) st st'' := by
  refine ⟨h'.sound, ?_, h.settled.append h'.since h'.settled⟩
  rw [List.map_append]
  exact h.since.append h'.since

/-- One name is bound to what its value was inferred to be. -/
theorem step_assign (hst : st.Sound) (hs : st.HasScope s) {p : Pairing} {turn : Store} {v : Value}
    (hturn : Since p.earlier s st₀ turn) (hinferred : turn.infer s p.value = some v)
    (hv : st.HoldsValue v) : Step st₀ s [p] st (st.assign s p.label v) := by
  refine ⟨hst.assign hs p.label hv, since_assign hs p.label v, fun before q after hsplit _ => ?_⟩
  have hq : q = p := by
    have hmem : q ∈ [p] := by simp [hsplit]
    exact List.mem_singleton.mp hmem
  rw [hq]
  exact ⟨turn, v, hturn, hinferred, boundTo_assign hs p.label v⟩

/-! ### Taking apart -/

/-- What is inferred for a group, target by target. -/
theorem forall₂_inferGroup {items : List Pattern} {values : List Expr} {inferred : List Value}
    (hi : st.inferGroup s items values = some inferred) (hlen : items.length = values.length) :
    List.Forall₂ (fun item v => ∀ label, item = .name label → st.infer s v.1 = some v.2) items
      (values.zip inferred) := by
  replace hi := mapM_eq_some_iff.mp hi
  induction items generalizing values inferred with
  | nil =>
    rw [List.length_eq_zero_iff.mp hlen.symm]
    exact .nil
  | cons item rest ih =>
    cases values with
    | nil => simp at hlen
    | cons value others =>
      rw [List.zip_cons_cons, List.forall₂_cons_left_iff] at hi
      obtain ⟨v, more, hv, hmore, rfl⟩ := hi
      refine .cons ?_ (ih (Nat.succ.inj hlen) hmore)
      rintro label rfl
      exact hv

theorem Sound.holdsValue_inferGroup (hst : st.Sound) (hs : st.HasScope s) {items : List Pattern}
    {values : List Expr} {inferred : List Value}
    (hi : st.inferGroup s items values = some inferred) : ∀ v ∈ inferred, st.HoldsValue v := by
  have hstands : Standing (st.scope s).context (fun _ => True) st s :=
    ⟨hst, hs, rfl, trivial, fun _ _ => trivial⟩
  exact fun v hv => (hstands.free.admits_inferGroup hi v hv).held

section Parts

variable (hs : st₀.HasScope s)

include hs

mutual

theorem step_destructure (target : Pattern) {value : Expr} (hvalue : value.readable = true)
    {earlier : List Label} {st : Store} (hst : st.Sound) (h : Since earlier s st₀ st) :
    Step st₀ s (target.pairings earlier value) st (destructure s target value st).store := by
  cases target with
  | group items =>
    cases value with
    | sequence values =>
      rw [Expr.readable] at hvalue
      rw [destructure, Pattern.pairings]
      split
      · exact .of_since hst (.refl s st)
      · rename_i hmatch
        have hlen : items.length = values.length := by
          by_contra hne
          exact hmatch (.inl hne)
        obtain ⟨inferred, hi⟩ := exists_inferGroup st s items hvalue
        have hfst : (values.zip inferred).map Prod.fst = values :=
          List.map_fst_zip (Nat.le_of_eq (length_inferGroup hi hlen).symm)
        rw [hi]
        -- the turn of the group has come: all its names are inferred in this store
        have hgroup := step_bindGroup items (values.zip inferred) hst h h
          (fun v hv => Expr.readable_of_mem hvalue (List.of_mem_zip hv).1)
          (fun v hv => hst.holdsValue_inferGroup (h.hasScope hs) hi v.2 (List.of_mem_zip hv).2)
          (forall₂_inferGroup hi hlen)
        rwa [hfst] at hgroup
    | _ => exact .of_since hst (.refl s st)
  | _ => exact .of_since hst (.refl s st)

theorem step_bindGroup (items : List Pattern) (values : List (Expr × Value))
    {start earlier : List Label} {turn st : Store} (hst : st.Sound)
    (hturn : Since start s st₀ turn) (h : Since earlier s st₀ st)
    (hread : ∀ v ∈ values, v.1.readable = true) (hheld : ∀ v ∈ values, st.HoldsValue v.2)
    (hinferred : List.Forall₂ (fun item v => ∀ label, item = .name label →
      turn.infer s v.1 = some v.2) items values) :
    Step st₀ s (Pattern.pairingsInGroup start earlier items (values.map Prod.fst)) st
      (bindGroup s items values st).store := by
  match items, values, hinferred with
  | [], _, .nil =>
    rw [bindGroup, Pattern.pairingsInGroup]
    · exact .of_since hst (.refl s st)
    all_goals simp
  | item :: rest, (value, v) :: others, .cons hitem hothers =>
    rw [List.forall_mem_cons] at hread hheld
    rw [List.map_cons]
    by_cases hname : ∃ label, item = .name label
    · obtain ⟨label, rfl⟩ := hname
      rw [bindGroup, Pattern.pairingsInGroup]
      have hfirst : Step st₀ s [⟨label, value, start⟩] st (st.assign s label v) :=
        step_assign hst (h.hasScope hs) hturn (hitem label rfl) hheld.1
      exact hfirst.append (step_bindGroup rest others hfirst.sound hturn (h.append hfirst.since) hread.2
        (fun w hw => hfirst.since.holdsValue (hheld.2 w hw)) hothers)
    · have hname' : ∀ label, item ≠ .name label := fun label e => hname ⟨label, e⟩
      have hfirst := step_destructure item hread.1 hst h
      have hsince := h.append hfirst.since
      rw [Pattern.map_label_pairings] at hsince
      rw [bindGroup_cons hname', Pattern.pairingsInGroup_cons hname',
        andThen_of_completed (completed_destructure s item hread.1 st)]
      exact hfirst.append (step_bindGroup rest others hfirst.sound hturn hsince hread.2
        (fun w hw => hfirst.since.holdsValue (hheld.2 w hw)) hothers)

end

/-- The targets of an assignment one after another; nothing is known about the sequence itself. -/
theorem step_bindTargets {values : List Expr} (hvalues : Expr.allReadable values = true)
    {known : Option Descriptor} (hknown : ∀ d, known = some d → d = .unknown)
    {targets : List Pattern} (htargets : Pattern.allReadable targets = true)
    {earlier : List Label} (hst : st.Sound) (h : Since earlier s st₀ st) :
    Step st₀ s (Pattern.pairingsOfTargets (.sequence values) earlier targets) st
      (bindTargets s (.sequence values) known targets st).store := by
  induction targets generalizing known earlier st with
  | nil => exact .of_since hst (.refl s st)
  | cons target rest ih =>
    rw [Pattern.allReadable, Bool.and_eq_true] at htargets
    rw [Pattern.pairingsOfTargets]
    -- whatever a target does, the targets after it go on from there
    have hnext : ∀ {known' : Option Descriptor} {st' : Store},
        (∀ d, known' = some d → d = .unknown) →
        Step st₀ s (target.assignedPairings (.sequence values) earlier) st st' →
        Step st₀ s (target.assignedPairings (.sequence values) earlier ++
          Pattern.pairingsOfTargets (.sequence values)
            (earlier ++ target.assigned (.sequence values)) rest) st
          (bindTargets s (.sequence values) known' rest st').store := by
      intro known' st' hknown' hfirst
      have hsince := h.append hfirst.since
      rw [Pattern.map_label_assignedPairings] at hsince
      exact hfirst.append (ih hknown' htargets.2 hfirst.sound hsince)
    cases target with
    | name label =>
      have hfirst : Step st₀ s [⟨label, .sequence values, earlier⟩] st
          (st.assign s label .unknown) :=
        step_assign hst (h.hasScope hs) h rfl trivial
      cases known with
      | some d =>
        rw [bindTargets]
        rw [hknown d rfl]
        exact hnext (by simp) hfirst
      | none => exact hnext (fun d hd => (Option.some.inj hd).symm) hfirst
    | group items =>
      have hread : (Expr.sequence values).readable = true := hvalues
      rw [bindTargets, andThen_of_completed (completed_destructure s (.group items) hread st)]
      exact hnext hknown (step_destructure hs (.group items) hread hst h)
    | member root path =>
      have hwrites : Writes (fun _ => True) (fun _ => True) st
          (registerPath (st.find s root) path st) := writes_registerPath _ path st
      rw [bindTargets]
      exact hnext hknown (.of_since (hwrites.sound hst) (since_registerPath _ path st))
    | splat items => exact hnext hknown (.of_since hst (.refl s st))
    | other => exact hnext hknown (.of_since hst (.refl s st))
    | fault => simp [Pattern.readable] at htargets

end Parts

/-! ### Assignments -/

/-- If no name is bound, none is read. -/
theorem unread_nil (st : Store) (e : Expr) : st.Unread [] e :=
  ⟨fun _ _ => List.not_mem_nil, fun _ _ _ => List.not_mem_nil, fun _ _ _ _ _ => List.not_mem_nil⟩

/-- **Each name of a destructuring assignment is bound at its turn.**  An assignment that takes a
sequence apart comes to its end.  It binds no names but those that it pairs with values; and each of
them is bound to what the last value that it is paired with was inferred to be when its turn came.
This is what the value is inferred to be before the assignment, unless a name is read for it that was
bound by then. -/
theorem walkAssignment_destructured (st : Store) (s : ScopeId) (hst : st.Sound)
    (hs : st.HasScope s) (targets : List Pattern) (values : List Expr)
    (hread : (Assignment.mk targets (some (.sequence values))).readable = true) :
    let item := Assignment.mk targets (some (.sequence values))
    let out := walkAssignment s item st
    out.completed = true ∧
    item.pairings.map Pairing.label = item.bound ∧
    Since item.bound s st out.store ∧
    ∀ before p after, item.pairings = before ++ p :: after → p.label ∉ after.map Pairing.label →
      Paired st s out.store p ∧
      (st.Unread p.earlier p.value →
        ∃ v, st.infer s p.value = some v ∧ out.store.BoundTo s p.label v) := by
  intro item out
  have hlabels : item.pairings.map Pairing.label = item.bound :=
    Pattern.map_label_pairingsOfTargets (.sequence values) [] targets
  have hparts := hread
  rw [Assignment.readable, Bool.and_eq_true] at hparts
  have hstep : Step st s item.pairings st out.store :=
    step_bindTargets hs hparts.2 (by simp) hparts.1 hst (.refl s st)
  refine ⟨completed_walkAssignment s hread st, hlabels, hlabels ▸ hstep.since, ?_⟩
  intro before p after hsplit hlast
  have hpaired := hstep.settled before p after hsplit hlast
  refine ⟨hpaired, fun hunread => ?_⟩
  obtain ⟨turn, v, hturn, hv, hbound⟩ := hpaired
  exact ⟨v, (infer_since hturn hst hs hunread).symm.trans hv, hbound⟩

/-- `a = 's'` and `b = 1`. -/
def beforeSwap : Analysis :=
  .ofStatements {}
    [ .assign [.mk [.name (some "a")] (some .text)],
      .assign [.mk [.name (some "b")] (some .integer)] ]

theorem walkAssignment_destructured_swap :
    -- `a, (c, d), b = b, (a, 2.0), a`
    let item := Assignment.mk
      [.group [.name (some "a"), .group [.name (some "c"), .name (some "d")], .name (some "b")]]
      (some (.sequence [.name (some "b"), .sequence [.name (some "a"), .float],
        .name (some "a")]))
    let out := walkAssignment beforeSwap.root item beforeSwap.store
    item.readable = true ∧ out.completed = true ∧
      (∃ v, beforeSwap.store.infer beforeSwap.root (.name (some "a")) = some v ∧
        out.store.BoundTo beforeSwap.root (some "b") v) ∧
      (∃ v, beforeSwap.store.infer beforeSwap.root (.name (some "b")) = some v ∧
        out.store.BoundTo beforeSwap.root (some "a") v) := by
  intro item out
  have hstands : Standing {} (fun _ => True) beforeSwap.store beforeSwap.root :=
    (Analysis.standing_empty {} fun _ => trivial).after_walkBody _
  have hread : item.readable = true := by decide
  obtain ⟨hend, -, -, hpaired⟩ := walkAssignment_destructured beforeSwap.store beforeSwap.root
    hstands.sound hstands.has _ _ hread
  have hb := hpaired [⟨some "a", .name (some "b"), []⟩, ⟨some "c", .name (some "a"), [some "a"]⟩,
    ⟨some "d", .float, [some "a"]⟩] ⟨some "b", .name (some "a"), []⟩ [] rfl (by decide)
  have ha := hpaired [] ⟨some "a", .name (some "b"), []⟩ [⟨some "c", .name (some "a"), [some "a"]⟩,
    ⟨some "d", .float, [some "a"]⟩, ⟨some "b", .name (some "a"), []⟩] rfl (by decide)
  exact ⟨hread, hend, hb.2 (unread_nil _ _), ha.2 (unread_nil _ _)⟩

/-- In `a, (b, c) = 1, (a, 2)` the inner `a` is inferred after the outer one was bound. -/
theorem not_evaluated_first :
    ¬ ∀ (ctx : Context) (body : List Stmt) (targets : List Pattern) (values : List Expr),
      (Assignment.mk targets (some (.sequence values))).readable = true →
      ∀ before p after,
        (Assignment.mk targets (some (.sequence values))).pairings = before ++ p :: after →
        p.label ∉ after.map Pairing.label →
        ∃ v, (Analysis.ofStatements ctx body).store.infer (Analysis.empty ctx).root p.value =
            some v ∧
          (walkAssignment (Analysis.empty ctx).root (.mk targets (some (.sequence values)))
            (Analysis.ofStatements ctx body).store).store.BoundTo (Analysis.empty ctx).root
              p.label v := by
  intro h
  obtain ⟨v, hv, d, hd, hstands⟩ := h {} [.assign [.mk [.name (some "a")] (some .text)]]
    [.group [.name (some "a"), .group [.name (some "b"), .name (some "c")]]]
    [.integer, .sequence [.name (some "a"), .integer]] (by decide)
    [⟨some "a", .integer, []⟩] ⟨some "b", .name (some "a"), [some "a"]⟩
    [⟨some "c", .integer, [some "a"]⟩] rfl (by decide)
  have hbefore : (Analysis.ofStatements {}
      [.assign [.mk [.name (some "a")] (some .text)]]).store.infer (Analysis.empty {}).root
        (.name (some "a")) = some (.held (.instanceOf "java.lang.String" none)) := by
    decide +kernel
  rw [hbefore] at hv
  rw [← Option.some.inj hv] at hstands
  have hd' : d = .instanceOf "java.lang.String" none := hstands
  rw [hd'] at hd
  revert hd
  decide +kernel

end Store

end ScriptScope
