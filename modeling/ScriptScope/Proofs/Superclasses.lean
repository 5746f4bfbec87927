import Mathlib.Logic.Relation
import ScriptScope.Inference.Build
import ScriptScope.Proofs.Listings
import ScriptScope.Proofs.StoreLaws

/-!
# Members and the superclass graph

`classMembers` lists the members of a class along its lineage, which leaves out a class of the store
that the walk has come to before.  Superclass names may form any graph, so the question is whether
leaving a class out can lose one that is only reached through it.

It cannot: what a lineage leaves out because it was visited is on the list already, so the list is
closed under superclasses (`superclass_mem_lineageFrom`) and holds everything that can be reached
(`mem_lineage_of_reaches`).  Conversely whatever is on it can be reached (`sited_of_mem_lineage`).

A listing in turn may pass a class over that a lookup made up, if it comes to lie where another was.
Together these say which names a class offers: those that a class offers that can be reached and is
not passed over (`mem_names_classMembers_iff`).  Where no address comes back, these are all names
that can be reached, but not in every heap (`not_classMembers_of_reaches`).
-/

namespace ScriptScope.Store

/-! ### The graph -/

/-- The class at a place of a lineage; a host class is not one of the script. -/
def classAt? (st : Store) : Ancestor → Option ClassInfo
  | .host _ => none
  | .script id => some (st.cls id)
  | .made info => some info

/-- A class that a script can speak of: one of the store, or one that a lookup makes up from the
builtin symbols. -/
inductive IsClass (st : Store) : Ancestor → Prop
  | stored (id : ClassId) : IsClass st (.script id)
  | builtin {s : ScopeId} {name : String} {info : ClassInfo} (h : st.builtin? s name = some info) :
    IsClass st (.made info)

/-- A class names another as its superclass: the host does not know the name, and looking it up
around the class finds the other. -/
def Extends (ctx : Context) (st : Store) (a b : Ancestor) : Prop :=
  ∃ c base, st.classAt? a = some c ∧ base ∈ c.bases ∧ ctx.reflect base = none ∧
    st.scriptSuperclass? c base = some b

/-- A class reaches another by naming superclasses any number of times. -/
def Reaches (ctx : Context) (st : Store) : Ancestor → Ancestor → Prop :=
  Relation.ReflTransGen (Extends ctx st)

/-- A class offers a name by itself: as a member, or as a member of a host class that it names as a
superclass. -/
def Offers (ctx : Context) (st : Store) (a : Ancestor) (name : Label) : Prop :=
  ∃ c, st.classAt? a = some c ∧
    (name ∈ c.members ∨
      ∃ base ∈ c.bases, ∃ members, ctx.reflect base = some members ∧
        ∃ m ∈ members, name = some m.name)

/-- A class made up from the builtin symbols names no superclasses. -/
theorem bases_of_builtin? {st : Store} {s : ScopeId} {name : String} {info : ClassInfo}
    (h : st.builtin? s name = some info) : info.bases = [] := by
  unfold builtin? at h
  simp only [Option.ite_none_left_eq_some, Option.some.injEq] at h
  rw [← h.2]

/-- The class that is made up for a builtin name has this name, and belongs to the scope that the
lookup started from. -/
theorem site_of_builtin? {st : Store} {s : ScopeId} {name : String} {info : ClassInfo}
    (h : st.builtin? s name = some info) : info.name = name ∧ info.scope = some s := by
  unfold builtin? at h
  simp only [Option.ite_none_left_eq_some, Option.some.injEq] at h
  rw [← h.2]
  exact ⟨rfl, rfl⟩

/-- What a lookup makes up is a builtin class of the scope it started from, and stands for a name
that is not bound. -/
theorem builtin?_of_find {st : Store} {s : ScopeId} {name : Label} {info : ClassInfo}
    (h : st.find s name = .made info) :
    st.binding? s name = none ∧ ∃ text, name = some text ∧ st.builtin? s text = some info := by
  unfold find at h
  split at h
  · simp at h
  · rename_i hunbound
    split at h
    · rename_i found hfound
      simp only [Value.made.injEq] at h
      obtain ⟨text, hname, htext⟩ := Option.bind_eq_some_iff.mp hfound
      exact ⟨hunbound, text, hname, h ▸ htext⟩
    · simp [Value.unknown] at h

/-- A class that is made up for a superclass name was made up by a lookup of this name. -/
theorem exists_find_of_scriptSuperclass? {st : Store} {c info : ClassInfo} {base : String}
    (h : st.scriptSuperclass? c base = some (.made info)) :
    ∃ s, st.find s (some base) = .made info := by
  unfold scriptSuperclass? at h
  split at h
  · simp at h
  · rename_i hfound
    obtain ⟨s, -, hs⟩ := Option.map_eq_some_iff.mp hfound
    cases Option.some.inj h
    exact ⟨s, hs⟩
  · simp at h

/-- A superclass name that the host does not know stands for a class. -/
theorem isClass_of_scriptSuperclass? {st : Store} {c : ClassInfo} {base : String} {a : Ancestor}
    (h : st.scriptSuperclass? c base = some a) : IsClass st a := by
  cases a with
  | host members =>
    unfold scriptSuperclass? at h
    split at h <;> simp at h
  | script id => exact .stored id
  | made info =>
    obtain ⟨s, hs⟩ := exists_find_of_scriptSuperclass? h
    obtain ⟨-, text, -, htext⟩ := builtin?_of_find hs
    exact .builtin htext

/-- Whatever a class names as a superclass is a class again. -/
theorem IsClass.of_extends {ctx : Context} {st : Store} {a b : Ancestor} (h : Extends ctx st a b) :
    IsClass st b := by
  obtain ⟨c, base, -, -, -, hfound⟩ := h
  exact isClass_of_scriptSuperclass? hfound

/-- What can be reached from a class is a class. -/
theorem IsClass.of_reaches {ctx : Context} {st : Store} {a b : Ancestor} (ha : IsClass st a)
    (h : Reaches ctx st a b) : IsClass st b := by
  induction h with
  | refl => exact ha
  | tail _ hedge _ => exact .of_extends hedge

/-- A class that names superclasses is one of the store, and no such class is passed over. -/
theorem not_passesOver_of_bases {st : Store} {a : Ancestor} {c : ClassInfo} {base : String}
    {stops : List Stop} (ha : IsClass st a) (hc : st.classAt? a = some c) (hbase : base ∈ c.bases) :
    ¬ PassesOver stops a := by
  cases ha with
  | stored id => exact not_false
  | builtin hinfo =>
    rw [← Option.some.inj hc, bases_of_builtin? hinfo] at hbase
    simp at hbase

/-- The known superclasses of a class: host classes by name, and the classes that it extends. -/
theorem mem_superclasses_iff {ctx : Context} {st : Store} {c : ClassInfo} {a : Ancestor} :
    a ∈ superclasses ctx st c ↔ ∃ base ∈ c.bases,
      (∃ members, ctx.reflect base = some members ∧ a = .host members) ∨
      (ctx.reflect base = none ∧ st.scriptSuperclass? c base = some a) := by
  unfold superclasses
  rw [List.mem_filterMap]
  refine exists_congr fun base => and_congr_right fun _ => ?_
  unfold superclass?
  cases hr : ctx.reflect base with
  | none => simp
  | some members => simp [eq_comm]

/-- Only a class of the store extends anything. -/
theorem extends_iff_mem_superclasses {ctx : Context} {st : Store} {a b : Ancestor}
    (ha : IsClass st a) :
    Extends ctx st a b ↔
      ∃ id, a = .script id ∧ b ∈ superclasses ctx st (st.cls id) ∧ IsClass st b := by
  constructor
  · intro h
    have hb := IsClass.of_extends h
    obtain ⟨c, base, hc, hbase, hr, hfound⟩ := h
    cases ha with
    | stored id =>
      rw [← Option.some.inj hc] at hbase hfound
      exact ⟨id, rfl, mem_superclasses_iff.mpr ⟨base, hbase, .inr ⟨hr, hfound⟩⟩, hb⟩
    | builtin hinfo =>
      rw [← Option.some.inj hc, bases_of_builtin? hinfo] at hbase
      simp at hbase
  · rintro ⟨id, rfl, hmem, hb⟩
    obtain ⟨base, hbase, ⟨members, -, rfl⟩ | ⟨hr, hfound⟩⟩ := mem_superclasses_iff.mp hmem
    · cases hb
    · exact ⟨st.cls id, base, rfl, hbase, hr, hfound⟩

/-! ### What is on a lineage -/

/-- A property that superclasses inherit holds all along a lineage that starts with it. -/
theorem forall_mem_lineageFrom {ctx : Context} {st : Store} {P : Ancestor → Prop}
    (hstep : ∀ id, P (.script id) → ∀ b ∈ superclasses ctx st (st.cls id), P b)
    (fresh : List ClassId) (pending : List Ancestor) (hpending : ∀ a ∈ pending, P a) :
    ∀ a ∈ lineageFrom ctx st fresh pending, P a := by
  fun_induction lineageFrom ctx st fresh pending with
  | case1 => simp
  | case2 fresh members rest ih =>
    rw [List.forall_mem_cons] at hpending ⊢
    exact ⟨hpending.1, ih hpending.2⟩
  | case3 fresh info rest ih =>
    rw [List.forall_mem_cons] at hpending ⊢
    exact ⟨hpending.1, ih hpending.2⟩
  | case4 fresh id rest hfresh ih =>
    rw [List.forall_mem_cons] at hpending ⊢
    refine ⟨hpending.1, ih ?_⟩
    intro a ha
    rcases List.mem_append.mp ha with ha | ha
    · exact hstep id hpending.1 a ha
    · exact hpending.2 a ha
  | case5 fresh id rest hvisited ih =>
    exact ih (List.forall_mem_cons.mp hpending).2

/-- A place is accounted for by a list: it is on it, or it is a class outside `fresh`, which was
visited before the list was begun. -/
def Covered (fresh : List ClassId) (places : List Ancestor) (a : Ancestor) : Prop :=
  a ∈ places ∨ ∃ id, a = .script id ∧ id ∉ fresh

theorem Covered.cons {fresh : List ClassId} {places : List Ancestor} {a b : Ancestor}
    (h : Covered fresh places a) : Covered fresh (b :: places) a :=
  h.imp_left (List.mem_cons_of_mem b)

/-- A place that is accounted for after a class was visited is accounted for by the list that begins
with this class. -/
theorem Covered.cons_of_erase {fresh : List ClassId} {places : List Ancestor} {a : Ancestor}
    {id : ClassId} (h : Covered (fresh.erase id) places a) :
    Covered fresh (.script id :: places) a := by
  rcases h with h | ⟨j, rfl, hj⟩
  · exact .inl (List.mem_cons_of_mem _ h)
  · by_cases hji : j = id
    · rw [hji]
      exact .inl (List.mem_cons_self ..)
    · exact .inr ⟨j, rfl, fun hmem => hj ((List.mem_erase_of_ne hji).mpr hmem)⟩

/-- Every place that is pending comes to stand on the lineage, unless it was visited before. -/
theorem pending_covered_lineageFrom (ctx : Context) (st : Store) (fresh : List ClassId)
    (pending : List Ancestor) :
    ∀ a ∈ pending, Covered fresh (lineageFrom ctx st fresh pending) a := by
  fun_induction lineageFrom ctx st fresh pending with
  | case1 => simp
  | case2 fresh members rest ih =>
    rw [List.forall_mem_cons]
    exact ⟨.inl (List.mem_cons_self ..), fun a ha => (ih a ha).cons⟩
  | case3 fresh info rest ih =>
    rw [List.forall_mem_cons]
    exact ⟨.inl (List.mem_cons_self ..), fun a ha => (ih a ha).cons⟩
  | case4 fresh id rest hfresh ih =>
    rw [List.forall_mem_cons]
    refine ⟨.inl (List.mem_cons_self ..), fun a ha => ?_⟩
    exact (ih a (List.mem_append_right _ ha)).cons_of_erase
  | case5 fresh id rest hvisited ih =>
    rw [List.forall_mem_cons]
    exact ⟨.inr ⟨id, rfl, hvisited⟩, ih⟩

/-- A lineage holds the superclasses of the classes on it, unless they were visited before. -/
theorem superclass_mem_lineageFrom (ctx : Context) (st : Store) (fresh : List ClassId)
    (pending : List Ancestor) (id : ClassId)
    (hid : Ancestor.script id ∈ lineageFrom ctx st fresh pending) :
    ∀ b ∈ superclasses ctx st (st.cls id), Covered fresh (lineageFrom ctx st fresh pending) b := by
  fun_induction lineageFrom ctx st fresh pending with
  | case1 => simp at hid
  | case2 fresh members rest ih =>
    simp only [List.mem_cons, reduceCtorEq, false_or] at hid
    exact fun b hb => (ih hid b hb).cons
  | case3 fresh info rest ih =>
    simp only [List.mem_cons, reduceCtorEq, false_or] at hid
    exact fun b hb => (ih hid b hb).cons
  | case4 fresh id' rest hfresh ih =>
    intro b hb
    simp only [List.mem_cons, Ancestor.script.injEq] at hid
    rcases hid with rfl | hid
    -- the superclasses of a class are pending right after it
    · exact (pending_covered_lineageFrom ctx st _ _ b (List.mem_append_left _ hb)).cons_of_erase
    · exact (ih hid b hb).cons_of_erase
  | case5 fresh id' rest hvisited ih => exact ih hid

/-- The numbers of the classes that the store has. -/
theorem mem_classIds_iff {st : Store} {id : ClassId} : id ∈ st.classIds ↔ st.HasClass id := by
  unfold classIds HasClass
  constructor
  · intro h
    obtain ⟨i, hi, rfl⟩ := List.mem_map.mp h
    exact List.mem_range.mp hi
  · intro h
    exact List.mem_map.mpr ⟨id.index, List.mem_range.mpr h, rfl⟩

theorem nodup_classIds (st : Store) : st.classIds.Nodup := by
  unfold classIds List.Nodup
  rw [List.pairwise_map]
  exact List.nodup_range.imp fun hne h => hne (ClassId.mk.inj h)

/-- Classes of one store have numbers in another one, and like superclasses there.  Only those among
`met` count, which the superclasses of a class do not lead out of. -/
structure Renumbered (ctx : Context) (st st' : Store) (met : ClassId → Prop)
    (number : ClassId → ClassId) (place : Ancestor → Ancestor) : Prop where
  script : ∀ id, place (.script id) = .script (number id)
  host : ∀ members, place (.host members) = .host members
  made : ∀ info, place (.made info) = .made info
  inj : ∀ id other, met id → met other → number id = number other → id = other
  alike : ∀ id, met id → superclasses ctx st' (st'.cls (number id)) =
    (superclasses ctx st (st.cls id)).map place
  closed : ∀ id, met id → ∀ other, .script other ∈ superclasses ctx st (st.cls id) → met other

/-- Lineages in the two stores go through the same places. -/
theorem Renumbered.lineageFrom_eq {ctx : Context} {st st' : Store} {met : ClassId → Prop}
    {number : ClassId → ClassId} {place : Ancestor → Ancestor}
    (h : Renumbered ctx st st' met number place) (fresh fresh' : List ClassId)
    (pending : List Ancestor) (hfresh : fresh.Nodup) (hfresh' : fresh'.Nodup)
    (hmem : ∀ id, met id → (number id ∈ fresh' ↔ id ∈ fresh))
    (hpending : ∀ id, .script id ∈ pending → met id) :
    lineageFrom ctx st' fresh' (pending.map place) =
      (lineageFrom ctx st fresh pending).map place := by
  -- on the places yet to be visited
  fun_induction lineageFrom ctx st fresh pending generalizing fresh' with
  | case1 => simp [lineageFrom]
  | case2 fresh members rest ih =>
    rw [List.map_cons, List.map_cons, h.host, lineageFrom,
      ih fresh' hfresh hfresh' hmem fun id hid => hpending id (List.mem_cons_of_mem _ hid)]
  | case3 fresh info rest ih =>
    rw [List.map_cons, List.map_cons, h.made, lineageFrom,
      ih fresh' hfresh hfresh' hmem fun id hid => hpending id (List.mem_cons_of_mem _ hid)]
  | case4 fresh id rest hid ih =>
    have hmet := hpending id (List.mem_cons_self ..)
    rw [List.map_cons, List.map_cons, h.script, lineageFrom,
      ite_cond_eq_true _ _ (eq_true ((hmem id hmet).mpr hid)), h.alike id hmet,
      ← List.map_append, ih _ (hfresh.erase id) (hfresh'.erase _) ?_ ?_]
    · intro other hother
      have hne : number other ≠ number id ↔ other ≠ id :=
        not_congr ⟨h.inj other id hother hmet, congrArg number⟩
      rw [hfresh'.mem_erase_iff, hfresh.mem_erase_iff, hmem other hother, hne]
    · intro other hother
      rcases List.mem_append.mp hother with hother | hother
      · exact h.closed id hmet other hother
      · exact hpending other (List.mem_cons_of_mem _ hother)
  | case5 fresh id rest hid ih =>
    have hmet := hpending id (List.mem_cons_self ..)
    rw [List.map_cons, h.script, lineageFrom,
      ite_cond_eq_false _ _ (eq_false (mt (hmem id hmet).mp hid)),
      ih fresh' hfresh hfresh' hmem fun id hid => hpending id (List.mem_cons_of_mem _ hid)]

theorem Renumbered.lineage_eq {ctx : Context} {st st' : Store} {met : ClassId → Prop}
    {number : ClassId → ClassId} {place : Ancestor → Ancestor}
    (h : Renumbered ctx st st' met number place)
    (hhas : ∀ id, met id → (st'.HasClass (number id) ↔ st.HasClass id)) {start : Ancestor}
    (hstart : ∀ id, start = .script id → met id) :
    lineage ctx st' (place start) = (lineage ctx st start).map place := by
  refine h.lineageFrom_eq _ _ [start] st.nodup_classIds st'.nodup_classIds ?_ ?_
  · intro id hid
    rw [mem_classIds_iff, mem_classIds_iff]
    exact hhas id hid
  · intro id hid
    exact hstart id (List.mem_singleton.mp hid).symm

/-- Everything that a class reaches is on its lineage, but for numbers without a class. -/
theorem mem_lineage_of_reaches {ctx : Context} {st : Store} {start a : Ancestor}
    (hstart : IsClass st start) (h : Reaches ctx st start a) :
    Covered st.classIds (lineage ctx st start) a := by
  induction h with
  | refl => exact pending_covered_lineageFrom ctx st _ _ start (List.mem_singleton_self start)
  -- whatever extends something is a class of the store, whose superclasses are on the lineage
  | @tail a b hreach hedge ih =>
    obtain ⟨id, rfl, hmem, -⟩ := (extends_iff_mem_superclasses (hstart.of_reaches hreach)).mp hedge
    rcases ih with ih | ⟨j, hj, hout⟩
    · exact superclass_mem_lineageFrom ctx st _ _ id ih b hmem
    · rw [← Ancestor.script.inj hj] at hout
      rw [cls_of_not_hasClass (mt mem_classIds_iff.mpr hout)] at hmem
      simp [superclasses, default] at hmem

/-- Where a place on a lineage comes from: a class is reached, and a host class is named by one that
is reached. -/
def Sited (ctx : Context) (st : Store) (start : Ancestor) : Ancestor → Prop
  | .host members => ∃ id base, Reaches ctx st start (.script id) ∧ base ∈ (st.cls id).bases ∧
      ctx.reflect base = some members
  | a => Reaches ctx st start a

/-- Whatever is on the lineage of a class can be reached from it. -/
theorem sited_of_mem_lineage {ctx : Context} {st : Store} {start a : Ancestor}
    (hstart : IsClass st start) (h : a ∈ lineage ctx st start) : Sited ctx st start a := by
  refine forall_mem_lineageFrom (P := Sited ctx st start) ?_ st.classIds [start] ?_ a h
  · intro id hid b hb
    obtain ⟨base, hbase, ⟨members, hr, rfl⟩ | ⟨hr, hfound⟩⟩ := mem_superclasses_iff.mp hb
    · exact ⟨id, base, hid, hbase, hr⟩
    · have hedge : Extends ctx st (.script id) b := ⟨st.cls id, base, rfl, hbase, hr, hfound⟩
      cases IsClass.of_extends hedge with
      | stored j => exact Relation.ReflTransGen.tail hid hedge
      | builtin hinfo => exact Relation.ReflTransGen.tail hid hedge
  · intro a ha
    rw [List.mem_singleton.mp ha]
    cases hstart with
    | stored id => exact .refl
    | builtin hinfo => exact .refl

/-- Something is at a place on the lineage of a class exactly if it is at a class that can be
reached, or at a host class that such a class names as a superclass. -/
theorem exists_mem_lineage_iff {ctx : Context} {st : Store} {start : Ancestor} {P : Ancestor → Prop}
    (hstart : IsClass st start) (hmissing : ∀ id, ¬ st.HasClass id → ¬ P (.script id)) :
    (∃ a ∈ lineage ctx st start, P a) ↔
      ∃ a, Reaches ctx st start a ∧ ∃ c, st.classAt? a = some c ∧
        (P a ∨ ∃ base ∈ c.bases, ∃ members, ctx.reflect base = some members ∧
          P (.host members)) := by
  constructor
  · rintro ⟨a, ha, hP⟩
    have hsited := sited_of_mem_lineage hstart ha
    cases a with
    | host members =>
      obtain ⟨id, base, hreach, hbase, hr⟩ := hsited
      exact ⟨.script id, hreach, st.cls id, rfl, .inr ⟨base, hbase, members, hr, hP⟩⟩
    | script id => exact ⟨.script id, hsited, st.cls id, rfl, .inl hP⟩
    | made info => exact ⟨.made info, hsited, info, rfl, .inl hP⟩
  · rintro ⟨a, hreach, c, hc, hP⟩
    have hclass := hstart.of_reaches hreach
    rcases mem_lineage_of_reaches hstart hreach with ha | ⟨id, rfl, hout⟩
    · rcases hP with hP | ⟨base, hbase, members, hr, hP⟩
      · exact ⟨a, ha, hP⟩
      -- a builtin class has no superclasses, so the host class is named by a class of the store
      · cases hclass with
        | builtin hinfo =>
          rw [← Option.some.inj hc, bases_of_builtin? hinfo] at hbase
          simp at hbase
        | stored id =>
          rw [← Option.some.inj hc] at hbase
          have hmem : Ancestor.host members ∈ superclasses ctx st (st.cls id) :=
            mem_superclasses_iff.mpr ⟨base, hbase, .inl ⟨members, hr, rfl⟩⟩
          rcases superclass_mem_lineageFrom ctx st _ _ id ha _ hmem with hhost | ⟨j, hj, -⟩
          · exact ⟨.host members, hhost, hP⟩
          · simp at hj
    -- a number without a class has nothing, and names no superclasses
    · have hno : ¬ st.HasClass id := mt mem_classIds_iff.mpr hout
      rcases hP with hP | ⟨base, hbase, -⟩
      · exact absurd hP (hmissing id hno)
      · rw [← Option.some.inj hc, cls_of_not_hasClass hno] at hbase
        simp [default] at hbase

/-! ### The names that a class offers -/

/-- The entry of a member is named for it. -/
@[simp] theorem name_ownEntry (st : Store) (c : ClassInfo) (member : Label) :
    (st.ownEntry c member).name = member := by
  unfold ownEntry
  split <;> rfl

/-- A class on a lineage contributes the names of its members. -/
theorem names_entriesAt_of_classAt? {st : Store} {a : Ancestor} {c : ClassInfo}
    (h : st.classAt? a = some c) : (st.entriesAt a).map Entry.name = c.members := by
  cases a with
  | host members => simp [classAt?] at h
  | script id =>
    rw [← Option.some.inj h]
    simp [entriesAt, Function.comp_def]
  | made info =>
    rw [← Option.some.inj h]
    simp [entriesAt, Function.comp_def]

/-- A host class on a lineage contributes the names of the members that reflection reports. -/
theorem names_entriesAt_host (st : Store) (members : List Host.Member) :
    (st.entriesAt (.host members)).map Entry.name = members.map (fun m => some m.name) := by
  simp [entriesAt, Function.comp_def, Entry.ofHost]

/-- The names of the members of a class are those that the listed places contribute. -/
theorem mem_names_classMembers (ctx : Context) (st : Store) (start : Ancestor) (heap : Heap)
    (name : Label) :
    name ∈ (classMembers ctx st start heap).map Entry.name ↔
      ∃ a ∈ listing ctx st start heap, name ∈ (st.entriesAt a).map Entry.name := by
  unfold classMembers
  rw [mem_firstBy_keys, List.map_flatMap, List.mem_flatMap]

/-- A class offers the names that the classes it reaches offer by themselves, but for those that are
passed over. -/
theorem mem_names_classMembers_iff {ctx : Context} {st : Store} {start : Ancestor}
    {heap : Heap} (hstart : IsClass st start) (name : Label) :
    name ∈ (classMembers ctx st start heap).map Entry.name ↔
      ∃ a, Reaches ctx st start a ∧ Offers ctx st a name ∧
        ¬ PassesOver (stops ctx st start heap) a := by
  have hplaces : name ∈ (classMembers ctx st start heap).map Entry.name ↔
      ∃ a ∈ lineage ctx st start, name ∈ (st.entriesAt a).map Entry.name ∧
        ¬ PassesOver (stops ctx st start heap) a := by
    rw [mem_names_classMembers]
    refine exists_congr fun a => ?_
    rw [mem_listing_iff, and_assoc]
    exact and_congr_right fun _ => and_comm
  rw [hplaces, exists_mem_lineage_iff hstart fun id hno => ?_]
  · refine exists_congr fun a => and_congr_right fun hreach => ?_
    constructor
    · rintro ⟨c, hc, ⟨hname, hlisted⟩ | ⟨base, hbase, members, hr, hname, -⟩⟩
      · rw [names_entriesAt_of_classAt? hc] at hname
        exact ⟨⟨c, hc, .inl hname⟩, hlisted⟩
      · rw [names_entriesAt_host, List.mem_map] at hname
        obtain ⟨m, hm, rfl⟩ := hname
        refine ⟨⟨c, hc, .inr ⟨base, hbase, members, hr, m, hm, rfl⟩⟩, ?_⟩
        exact not_passesOver_of_bases (hstart.of_reaches hreach) hc hbase
    · rintro ⟨⟨c, hc, hname | ⟨base, hbase, members, hr, m, hm, rfl⟩⟩, hlisted⟩
      · exact ⟨c, hc, .inl ⟨by rwa [names_entriesAt_of_classAt? hc], hlisted⟩⟩
      · refine ⟨c, hc, .inr ⟨base, hbase, members, hr, ?_, id⟩⟩
        rw [names_entriesAt_host]
        exact List.mem_map_of_mem hm
  -- a number without a class offers nothing
  · rw [names_entriesAt_of_classAt? rfl, cls_of_not_hasClass hno]
    simp [default]

/-- A name is hidden from a class in some heap: a class that it reaches offers the name, but is
passed over. -/
def Hides (ctx : Context) (st : Store) (start : Ancestor) (heap : Heap) (name : Label) : Prop :=
  ∃ a, Reaches ctx st start a ∧ Offers ctx st a name ∧
    PassesOver (stops ctx st start heap) a

section Hides

variable {ctx : Context} {st : Store} {start : Ancestor} {heap : Heap} {name : Label}

/-- What a class offers in any heap can be reached. -/
theorem exists_offer_of_mem_names (hstart : IsClass st start)
    (h : name ∈ (classMembers ctx st start heap).map Entry.name) :
    ∃ a, Reaches ctx st start a ∧ Offers ctx st a name := by
  obtain ⟨a, hreach, hoffer, -⟩ := (mem_names_classMembers_iff hstart name).mp h
  exact ⟨a, hreach, hoffer⟩

/-- A name that can be reached is offered, unless it is hidden. -/
theorem mem_names_or_hides (hstart : IsClass st start)
    (h : ∃ a, Reaches ctx st start a ∧ Offers ctx st a name) :
    name ∈ (classMembers ctx st start heap).map Entry.name ∨ Hides ctx st start heap name := by
  obtain ⟨a, hreach, hoffer⟩ := h
  by_cases hpassed : PassesOver (stops ctx st start heap) a
  · exact .inr ⟨a, hreach, hoffer, hpassed⟩
  · exact .inl ((mem_names_classMembers_iff hstart name).mpr ⟨a, hreach, hoffer, hpassed⟩)

/-- Where no address comes back, nothing is passed over that can be reached. -/
theorem not_passesOver_of_reaches (hstart : IsClass st start)
    (h : KeepsApart (stops ctx st start heap)) {a : Ancestor} (hreach : Reaches ctx st start a) :
    ¬ PassesOver (stops ctx st start heap) a := by
  rcases mem_lineage_of_reaches hstart hreach with ha | ⟨id, rfl, -⟩
  · rw [← listing_eq_lineage h] at ha
    exact (mem_listing_iff.mp ha).2
  · exact not_false

/-- Where no address comes back, a class offers whatever it reaches. -/
theorem mem_names_iff_of_keepsApart (hstart : IsClass st start)
    (h : KeepsApart (stops ctx st start heap)) :
    name ∈ (classMembers ctx st start heap).map Entry.name ↔
      ∃ a, Reaches ctx st start a ∧ Offers ctx st a name := by
  rw [mem_names_classMembers_iff hstart]
  refine exists_congr fun a => and_congr_right fun hreach => ?_
  exact and_iff_left (not_passesOver_of_reaches hstart h hreach)

theorem not_hides_of_keepsApart (hstart : IsClass st start)
    (h : KeepsApart (stops ctx st start heap)) : ¬ Hides ctx st start heap name := by
  rintro ⟨a, hreach, -, hpassed⟩
  exact not_passesOver_of_reaches hstart h hreach hpassed

end Hides

/-- What can be reached from a class of the store is reached from any other that stands in the same
place, names the same superclasses and has its members. -/
theorem exists_offer_congr {ctx : Context} {st : Store} {p q : ClassId}
    (hbases : (st.cls p).bases = (st.cls q).bases) (hscope : (st.cls p).scope = (st.cls q).scope)
    (hmembers : ∀ name, name ∈ (st.cls p).members → name ∈ (st.cls q).members) {name : Label}
    (h : ∃ a, Reaches ctx st (.script p) a ∧ Offers ctx st a name) :
    ∃ a, Reaches ctx st (.script q) a ∧ Offers ctx st a name := by
  obtain ⟨a, hreach, hoffer⟩ := h
  rcases Relation.ReflTransGen.cases_head hreach with rfl | ⟨b, hedge, hrest⟩
  · refine ⟨.script q, .refl, st.cls q, rfl, ?_⟩
    obtain ⟨c, hc, hoffer⟩ := hoffer
    rw [← Option.some.inj hc, hbases] at hoffer
    exact hoffer.imp_left (hmembers name)
  -- the first step away from `p` is one away from `q` as well
  · refine ⟨a, Relation.ReflTransGen.head ?_ hrest, hoffer⟩
    obtain ⟨c, base, hc, hbase, hr, hfound⟩ := hedge
    rw [← Option.some.inj hc] at hbase hfound
    refine ⟨st.cls q, base, rfl, hbases ▸ hbase, hr, ?_⟩
    rw [← hfound]
    unfold scriptSuperclass? home?
    rw [hscope]

/-- **Members over any superclass graph.**  In any heap, the members of a class have different
names, the listing comes to no class of the store twice, and a name is listed exactly if a class
that can be reached offers it and is not passed over.  Where no address comes back nothing is passed
over, and a name is listed exactly if a class that can be reached offers it.  A class with at most
two superclasses, neither of them a class of the store, is listed so in every heap. -/
theorem classMembers_of_graph (ctx : Context) (st : Store) (start : Ancestor) (heap : Heap)
    (hstart : IsClass st start) :
    ((classMembers ctx st start heap).map Entry.name).Nodup ∧
    (∀ id, ((stops ctx st start heap).map Stop.place).count (.script id) ≤ 1) ∧
    (∀ name, name ∈ (classMembers ctx st start heap).map Entry.name ↔
      ∃ a, Reaches ctx st start a ∧ Offers ctx st a name ∧
        ¬ PassesOver (stops ctx st start heap) a) ∧
    (KeepsApart (stops ctx st start heap) →
      ∀ name, name ∈ (classMembers ctx st start heap).map Entry.name ↔
        ∃ a, Reaches ctx st start a ∧ Offers ctx st a name) ∧
    (∀ id, start = .script id → (st.cls id).bases.length ≤ 2 →
      (∀ other, .script other ∉ superclasses ctx st (st.cls id)) →
      KeepsApart (stops ctx st start heap)) := by
  refine ⟨nodup_firstBy_keys _ _, fun id => ?_, mem_names_classMembers_iff hstart,
    fun happart _ => mem_names_iff_of_keepsApart hstart happart, ?_⟩
  · rw [places_stops]
    exact count_lineageFrom_le_one ctx st _ _ id st.nodup_classIds
  · rintro id rfl htwo hscript
    exact keepsApart_of_two_bases heap htwo hscript

/-- A script in which `B` names `A` as its superclass, and a second `A` names `B`. -/
def inheritanceCycle : Store :=
  (Analysis.ofStatements {}
    [ .classDef "A" [] [.function "a" (some []) []],
      .classDef "B" [.name (some "A")] [.function "b" (some []) []],
      .classDef "A" [.name (some "B")] [.function "c" (some []) []] ]).store

theorem classMembers_inheritanceCycle :
    IsClass inheritanceCycle (.script ⟨2⟩) ∧
    Extends {} inheritanceCycle (.script ⟨2⟩) (.script ⟨1⟩) ∧
    Extends {} inheritanceCycle (.script ⟨1⟩) (.script ⟨2⟩) ∧
    ((classMembers {} inheritanceCycle (.script ⟨2⟩) .recycling).map Entry.name).Nodup ∧
    KeepsApart (stops {} inheritanceCycle (.script ⟨2⟩) .recycling) ∧
    some "b" ∈ (classMembers {} inheritanceCycle (.script ⟨2⟩) .recycling).map Entry.name := by
  obtain ⟨hnodup, -, -, hoffers, -⟩ :=
    classMembers_of_graph {} inheritanceCycle (.script ⟨2⟩) .recycling (.stored ⟨2⟩)
  have hup : Extends {} inheritanceCycle (.script ⟨2⟩) (.script ⟨1⟩) :=
    ⟨_, "B", rfl, by decide +kernel, rfl, by decide +kernel⟩
  have hdown : Extends {} inheritanceCycle (.script ⟨1⟩) (.script ⟨2⟩) :=
    ⟨_, "A", rfl, by decide +kernel, rfl, by decide +kernel⟩
  have hids : inheritanceCycle.classIds = [⟨0⟩, ⟨1⟩, ⟨2⟩] := by decide +kernel
  have hfirst : turns {} inheritanceCycle (inheritanceCycle.cls ⟨2⟩) = [some (.script ⟨1⟩)] := by
    decide +kernel
  have hsecond : turns {} inheritanceCycle (inheritanceCycle.cls ⟨1⟩) = [some (.script ⟨2⟩)] := by
    decide +kernel
  have happart : KeepsApart (stops {} inheritanceCycle (.script ⟨2⟩) .recycling) := by
    simp [KeepsApart, stops, stopsFrom, hids, hfirst, hsecond]
  refine ⟨.stored ⟨2⟩, hup, hdown, hnodup, happart, (hoffers happart (some "b")).mpr ?_⟩
  exact ⟨.script ⟨1⟩, .single hup, _, rfl, .inl (by decide +kernel)⟩

/-- Two builtin classes with a member each. -/
def builtinPair : Context :=
  { builtins := .ok ["__builtin__.dict.__class_getitem__", "__builtin__.str.__getattribute__"] }

/-- The class that a lookup from the outermost scope makes up for one of them. -/
def builtinClass (name member : String) : ClassInfo :=
  ⟨name, [], [], [some member], some ⟨0⟩⟩

/-- A class over one builtin class, and a class over this class and the other builtin class. -/
def inheritedBuiltins : List Stmt :=
  [ .classDef "A" [.name (some "dict")] [.other],
    .classDef "C" [.name (some "A"), .name (some "str")] [.other] ]

/-- The store with the two classes. -/
def inheritedStore : Store :=
  (Analysis.ofStatements builtinPair inheritedBuiltins).store

/-- The class that the listing makes up for `str` comes to lie where the one for `dict` was. -/
theorem stops_inheritedStore :
    stops builtinPair inheritedStore (.script ⟨1⟩) .recycling =
      [ .script ⟨1⟩, .script ⟨0⟩, .made (builtinClass "dict" "__class_getitem__") 1,
        .made (builtinClass "str" "__getattribute__") 1 ] := by
  have hids : inheritedStore.classIds = [⟨0⟩, ⟨1⟩] := by decide +kernel
  have hfirst : turns builtinPair inheritedStore (inheritedStore.cls ⟨0⟩) =
      [some (.made (builtinClass "dict" "__class_getitem__"))] := by decide +kernel
  have hsecond : turns builtinPair inheritedStore (inheritedStore.cls ⟨1⟩) =
      [some (.script ⟨0⟩), some (.made (builtinClass "str" "__getattribute__"))] := by
    decide +kernel
  simp [stops, stopsFrom, hids, hfirst, hsecond, Heap.recycling, Heap.above]

/-- Not every name that can be reached is offered in every heap. -/
theorem not_classMembers_of_reaches :
    ¬ ∀ (ctx : Context) (body : List Stmt) (start : Ancestor) (heap : Heap) (name : Label),
      IsClass (Analysis.ofStatements ctx body).store start →
      (∃ a, Reaches ctx (Analysis.ofStatements ctx body).store start a ∧
        Offers ctx (Analysis.ofStatements ctx body).store a name) →
      name ∈ (classMembers ctx (Analysis.ofStatements ctx body).store start heap).map
        Entry.name := by
  intro h
  have hnames : (classMembers builtinPair inheritedStore (.script ⟨1⟩) .recycling).map Entry.name =
      [some "__class_getitem__"] := by
    rw [classMembers, listing, stops_inheritedStore]
    decide +kernel
  have hedge : Extends builtinPair inheritedStore (.script ⟨1⟩)
      (.made (builtinClass "str" "__getattribute__")) :=
    ⟨_, "str", rfl, by decide +kernel, rfl, by decide +kernel⟩
  have hoffered := h builtinPair inheritedBuiltins (.script ⟨1⟩) .recycling
    (some "__getattribute__") (.stored ⟨1⟩) ⟨_, .single hedge, _, rfl, .inl (by decide)⟩
  change _ ∈ (classMembers builtinPair inheritedStore (.script ⟨1⟩) .recycling).map _ at hoffered
  rw [hnames] at hoffered
  revert hoffered
  decide

end ScriptScope.Store
