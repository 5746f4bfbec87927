import ScriptScope.Inference.Unify
import ScriptScope.Proofs.Lists
import ScriptScope.Proofs.Sound

/-!
# Receivers and their class

Unifying a class goes in two rounds: `gather` adds what its receivers have to the class, and
`spread` turns each of them into the class.  The class is none of its receivers and these are listed
once, so the rounds do not disturb each other: `cls_gather_self` and `cls_spread` say what each
class is afterwards in terms of what it was before.
-/

namespace ScriptScope

namespace ClassInfo

theorem putAll_append (c : ClassInfo) (xs ys : List Label) :
    c.putAll (xs ++ ys) = (c.putAll xs).putAll ys :=
  List.foldl_append

theorem members_put (c : ClassInfo) (member : Label) :
    (c.put member).members = addNew c.members [member] := by
  rw [addNew_singleton]
  unfold put
  split <;> rfl

/-- Registered members come after those that are there, each once. -/
theorem members_putAll (c : ClassInfo) (members : List Label) :
    (c.putAll members).members = addNew c.members members := by
  induction members generalizing c with
  | nil => exact (addNew_nil c.members).symm
  | cons m rest ih =>
    have hstep : c.putAll (m :: rest) = (c.put m).putAll rest := rfl
    rw [hstep, ih, members_put, ← addNew_append, List.singleton_append]

/-- A class that becomes another has its old members first and then those it lacked. -/
theorem become_eq (c other : ClassInfo) (h : other.members.Nodup) :
    c.become other =
      { other with members := c.members ++ other.members.filter (fun m => m ∉ c.members) } := by
  unfold become
  rw [members_putAll, addNew, firstByFrom_eq_filter id c.members (by simpa using h)]
  congr 2
  exact List.filter_congr fun m _ => decide_eq_decide.mpr Iff.rfl

end ClassInfo

namespace Store

/-! ### Which placeholders are receivers -/

/-- A placeholder is the receiver of a method: the method's first parameter is bound to it in the
method's own scope, to which it belongs. -/
def IsReceiver (st : Store) (method : Descriptor) (p : ClassId) : Prop :=
  ∃ fn first rest s, method = .function fn ∧ fn.params = first :: rest ∧ fn.scope = some s ∧
    (st.scope s).vars.get? first = some (.script p) ∧
    (st.cls p).isPlaceholder = true ∧ (st.cls p).scope = some s

variable {st : Store}

theorem receiverOf?_eq_some_some_iff {d : Descriptor} {p : ClassId} :
    st.receiverOf? d = some (some p) ↔ st.IsReceiver d p := by
  constructor
  · intro h
    cases d with
    | function fn =>
      change st.receiver? fn = some (some p) at h
      unfold receiver? at h
      split at h
      · simp at h
      · rename_i first rest hparams
        obtain ⟨s, hs, h⟩ := Option.map_eq_some_iff.mp h
        split at h
        · rename_i q hq
          rw [Option.ite_none_right_eq_some, Bool.and_eq_true, decide_eq_true_eq] at h
          obtain ⟨⟨hopen, hscope⟩, hpq⟩ := h
          rw [Option.some.inj hpq] at hopen hscope hq
          exact ⟨fn, first, rest, s, rfl, hparams, hs, hq, hopen, hscope⟩
        · simp at h
    | unknown => simp [receiverOf?] at h
    | instanceOf typeName scope => simp [receiverOf?] at h
    | static name => simp [receiverOf?] at h
    | script id => simp [receiverOf?] at h
  · rintro ⟨fn, first, rest, s, rfl, hparams, hs, hbound, hopen, hscope⟩
    simp [receiverOf?, receiver?, hparams, hs, hbound, hopen, hscope]

/-- Whether something held by the store has a receiver can be answered. -/
theorem exists_receiverOf? {d : Descriptor} (h : st.Holds d) : ∃ r, st.receiverOf? d = some r := by
  cases d with
  | function fn =>
    obtain ⟨s, hs, -⟩ := h
    show ∃ r, st.receiver? fn = some r
    unfold receiver?
    split
    · exact ⟨_, rfl⟩
    · rw [hs]
      exact ⟨_, rfl⟩
  | unknown => exact ⟨none, rfl⟩
  | instanceOf typeName scope => exact ⟨none, rfl⟩
  | static name => exact ⟨none, rfl⟩
  | script id => exact ⟨none, rfl⟩

/-- The receivers in a table, in the order of the methods. -/
def receivers (st : Store) (table : Bindings) : List ClassId :=
  firstBy id (table.filterMap (fun b => (st.receiverOf? b.2).join))

/-- The receivers in a table that fits the store can be told. -/
theorem receiversIn_eq {table : Bindings} (h : st.Fits table) :
    st.receiversIn table = some (st.receivers table) := by
  obtain ⟨found, hfound⟩ := exists_mapM_eq_some fun b hb => exists_receiverOf? (h.held b hb)
  have hjoin : found.filterMap id = table.filterMap (fun b => (st.receiverOf? b.2).join) := by
    have hall := mapM_eq_some_iff.mp hfound
    clear hfound h
    induction hall with
    | nil => rfl
    | cons hx _ ih =>
      rw [List.filterMap_cons, List.filterMap_cons, ih, hx]
      rfl
  unfold receiversIn receivers
  rw [hfound, ← hjoin]
  rfl

theorem mem_receivers_iff {table : Bindings} {p : ClassId} :
    p ∈ st.receivers table ↔ ∃ b ∈ table, st.IsReceiver b.2 p := by
  have hkeys := mem_firstBy_keys id (table.filterMap (fun b => (st.receiverOf? b.2).join)) p
  rw [List.map_id, List.map_id, List.mem_filterMap] at hkeys
  unfold receivers
  rw [hkeys]
  refine exists_congr fun b => and_congr_right fun _ => ?_
  rw [Option.join_eq_some_iff, receiverOf?_eq_some_some_iff]

theorem nodup_receivers (table : Bindings) : (st.receivers table).Nodup := by
  have := nodup_firstBy_keys id (table.filterMap (fun b => (st.receiverOf? b.2).join))
  rwa [List.map_id] at this

/-- Receivers are placeholders. -/
theorem IsReceiver.isPlaceholder {d : Descriptor} {p : ClassId} (h : st.IsReceiver d p) :
    (st.cls p).isPlaceholder = true := by
  obtain ⟨_, _, _, _, _, _, _, _, hopen, _⟩ := h
  exact hopen

/-- Receivers are classes of the store. -/
theorem IsReceiver.hasClass {d : Descriptor} {p : ClassId} (h : st.IsReceiver d p) :
    st.HasClass p := by
  by_contra hno
  have hopen := h.isPlaceholder
  rw [cls_of_not_hasClass hno] at hopen
  simp [ClassInfo.isPlaceholder, placeholderName, default] at hopen

/-- A class that is added is bound nowhere, so it makes no difference to the receivers. -/
theorem receivers_addClass (hst : st.Sound) (c : ClassInfo) (table : Bindings) :
    (st.addClass c).2.receivers table = st.receivers table := by
  have hold : ∀ d, (st.addClass c).2.receiverOf? d = st.receiverOf? d := by
    intro d
    cases d with
    | function fn =>
      show (st.addClass c).2.receiver? fn = st.receiver? fn
      unfold receiver?
      split
      · rfl
      · congr 1
        funext s
        rw [scope_addClass]
        split
        -- what a sound store binds is older than the new class
        · rename_i first _ _ _ id hbound
          have hid : st.HasClass id := (hst.vars s).holds_of_get? hbound
          have hne : id ≠ (st.addClass c).1 := by
            intro e
            rw [e] at hid
            exact Nat.lt_irrefl _ hid
          rw [cls_addClass_of_ne st hne]
        · rfl
    | unknown => rfl
    | instanceOf typeName scope => rfl
    | static name => rfl
    | script id => rfl
  unfold receivers
  simp only [hold]

/-! ### The two rounds -/

@[simp] theorem scopes_gather (id : ClassId) (found : List ClassId) (st : Store) :
    (st.gather id found).scopes = st.scopes := by
  unfold gather
  induction found generalizing st with
  | nil => rfl
  | cons p rest ih => rw [List.foldl_cons, ih, scopes_modifyClass]

@[simp] theorem length_classes_gather (id : ClassId) (found : List ClassId) (st : Store) :
    (st.gather id found).classes.length = st.classes.length := by
  unfold gather
  induction found generalizing st with
  | nil => rfl
  | cons p rest ih => rw [List.foldl_cons, ih, length_classes_modifyClass]

@[simp] theorem scopes_spread (id : ClassId) (found : List ClassId) (st : Store) :
    (st.spread id found).scopes = st.scopes := by
  unfold spread
  induction found generalizing st with
  | nil => rfl
  | cons p rest ih => rw [List.foldl_cons, ih, scopes_modifyClass]

@[simp] theorem length_classes_spread (id : ClassId) (found : List ClassId) (st : Store) :
    (st.spread id found).classes.length = st.classes.length := by
  unfold spread
  induction found generalizing st with
  | nil => rfl
  | cons p rest ih => rw [List.foldl_cons, ih, length_classes_modifyClass]

theorem cls_gather_of_ne {id q : ClassId} (hq : q ≠ id) (found : List ClassId) (st : Store) :
    (st.gather id found).cls q = st.cls q := by
  unfold gather
  induction found generalizing st with
  | nil => rfl
  | cons p rest ih => rw [List.foldl_cons, ih, cls_modifyClass_of_ne st _ hq]

/-- Gathering adds the members of the receivers, one receiver after the other. -/
theorem cls_gather_self {id : ClassId} {found : List ClassId} (hid : id ∉ found) (st : Store)
    (hhas : st.HasClass id) :
    (st.gather id found).cls id =
      (st.cls id).putAll (found.flatMap (fun p => (st.cls p).members)) := by
  unfold gather
  induction found generalizing st with
  | nil => rfl
  | cons p rest ih =>
    rw [List.mem_cons, not_or] at hid
    have hhas' : (st.modifyClass id (·.putAll (st.cls p).members)).HasClass id := by
      simpa only [HasClass, length_classes_modifyClass] using hhas
    -- the receivers that come later are read as they were
    have hrest : rest.flatMap (fun q =>
        ((st.modifyClass id (·.putAll (st.cls p).members)).cls q).members) =
        rest.flatMap (fun q => (st.cls q).members) := by
      refine List.flatMap_congr fun q hq => ?_
      have hne : q ≠ id := fun e => hid.2 (e ▸ hq)
      rw [cls_modifyClass_of_ne st _ hne]
    rw [List.foldl_cons, ih hid.2 _ hhas', hrest, cls_modifyClass_self st _ hhas, List.flatMap_cons,
      ClassInfo.putAll_append]

/-- Spreading turns the receivers into the class and changes nothing else. -/
theorem cls_spread {id : ClassId} {found : List ClassId} (hid : id ∉ found) (hnodup : found.Nodup)
    (st : Store) (hhas : ∀ p ∈ found, st.HasClass p) (q : ClassId) :
    (st.spread id found).cls q =
      if q ∈ found then (st.cls q).become (st.cls id) else st.cls q := by
  unfold spread
  induction found generalizing st with
  | nil => rfl
  | cons p rest ih =>
    rw [List.mem_cons, not_or] at hid
    rw [List.nodup_cons] at hnodup
    rw [List.forall_mem_cons] at hhas
    have hhas' : ∀ r ∈ rest, (st.modifyClass p (·.become (st.cls id))).HasClass r := by
      intro r hr
      simpa only [HasClass, length_classes_modifyClass] using hhas.2 r hr
    rw [List.foldl_cons, ih hid.2 hnodup.2 _ hhas', cls_modifyClass_of_ne st _ hid.1]
    -- each receiver is turned once, and the class itself never
    by_cases hqp : q = p
    · subst hqp
      rw [cls_modifyClass_self st _ hhas.1]
      simp [hnodup.1]
    · rw [cls_modifyClass_of_ne st _ hqp]
      simp [hqp]

end Store

end ScriptScope
