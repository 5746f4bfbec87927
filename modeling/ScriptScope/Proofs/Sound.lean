import Mathlib.Data.List.Nodup
import Mathlib.Logic.Relation
import ScriptScope.Inference.Infer
import ScriptScope.Proofs.StoreLaws

/-!
# Sound stores

Scopes and classes refer to each other by number.  A store is `Sound` if these references lead
somewhere: a parent is older than its children, a child names its parent, tables bind a name once,
and whatever a binding speaks of is in the store.

Every way of writing keeps a store sound (`Sound.bindVar` to `Sound.modifyClass`), provided that
what it binds is in the store.
-/

namespace ScriptScope

/-! ### Tables -/

namespace Bindings

/-- What a name is bound to stands in the table. -/
theorem mem_of_get? {table : Bindings} {name : Label} {d : Descriptor}
    (h : table.get? name = some d) : (name, d) ∈ table := by
  obtain ⟨b, hb, rfl⟩ := Option.map_eq_some_iff.mp h
  have hname : b.1 = name := by simpa using List.find?_some hb
  rw [← hname]
  exact List.mem_of_find?_eq_some hb

/-- A name is looked up with success if the table has it. -/
theorem isSome_get?_iff {table : Bindings} {name : Label} :
    (table.get? name).isSome = true ↔ name ∈ table.names := by
  unfold get? names
  rw [Option.isSome_map, List.find?_isSome, List.mem_map]
  simp only [beq_iff_eq]

theorem get?_append (table others : Bindings) (name : Label) :
    get? (table ++ others) name = (get? table name).or (get? others name) := by
  unfold get?
  rw [List.find?_append, Option.map_or]

/-- Binding a name adds one binding and no other. -/
theorem mem_of_mem_bind {table : Bindings} {name : Label} {value : Descriptor}
    {b : Label × Descriptor} (h : b ∈ table.bind name value) : b ∈ table ∨ b = (name, value) := by
  induction table with
  | nil => exact .inr (List.mem_singleton.mp h)
  | cons head rest ih =>
    unfold bind at h
    split at h
    · rcases List.mem_cons.mp h with h | h
      · exact .inr h
      · exact .inl (List.mem_cons_of_mem _ h)
    · rcases List.mem_cons.mp h with h | h
      · rw [h]
        exact .inl (List.mem_cons_self ..)
      · exact (ih h).imp_left (List.mem_cons_of_mem _)

/-- A table that binds each name once does so after another binding. -/
theorem nodup_names_bind {table : Bindings} (name : Label) (value : Descriptor)
    (h : table.names.Nodup) : (table.bind name value).names.Nodup := by
  rw [names_bind]
  split
  · exact h
  · rename_i hnew
    exact h.append (List.nodup_singleton _) (List.disjoint_singleton.mpr hnew)

end Bindings

namespace Store

/-! ### Sound stores -/

/-- Whatever a descriptor refers to is in the store, and a function has a scope. -/
def Holds (st : Store) : Descriptor → Prop
  | .unknown | .static _ => True
  | .instanceOf _ scope => ∀ s, scope = some s → st.HasScope s
  | .function fn => ∃ s, fn.scope = some s ∧ st.HasScope s
  | .script id => st.HasClass id

/-- Whatever a value refers to is in the store. -/
def HoldsValue (st : Store) : Value → Prop
  | .held d => st.Holds d
  | .made info => ∀ s, info.scope = some s → st.HasScope s

/-- A table that binds each name once, and to nothing but what is in the store. -/
structure Fits (st : Store) (table : Bindings) : Prop where
  nodup : table.names.Nodup
  held : ∀ b ∈ table, st.Holds b.2

/-- A store whose references lead somewhere. -/
structure Sound (st : Store) : Prop where
  /-- A parent is older than the scopes in it. -/
  parent_lt : ∀ s p, (st.scope s).parent = some p → p.index < s.index
  /-- The children of a scope are scopes that name it as their parent. -/
  child : ∀ s, ∀ c ∈ (st.scope s).children, st.HasScope c ∧ (st.scope c).parent = some s
  vars : ∀ s, st.Fits (st.scope s).vars
  imports : ∀ s, st.Fits (st.scope s).imports
  /-- Classes stand in scopes of the store. -/
  class_scope : ∀ id s, (st.cls id).scope = some s → st.HasScope s

/-- A child is younger than its parent. -/
theorem Sound.lt_child {st : Store} (h : st.Sound) {s c : ScopeId}
    (hc : c ∈ (st.scope s).children) : s.index < c.index :=
  h.parent_lt c s (h.child s c hc).2

/-- A store that has more keeps what it held. -/
theorem Holds.mono {st st' : Store} (hs : st.scopes.length ≤ st'.scopes.length)
    (hc : st.classes.length ≤ st'.classes.length) {d : Descriptor} (h : st.Holds d) :
    st'.Holds d := by
  cases d with
  | unknown => trivial
  | static name => trivial
  | instanceOf typeName scope => exact fun s e => Nat.lt_of_lt_of_le (h s e) hs
  | function fn =>
    obtain ⟨s, e, hlt⟩ := h
    exact ⟨s, e, Nat.lt_of_lt_of_le hlt hs⟩
  | script id => exact Nat.lt_of_lt_of_le h hc

theorem Fits.nil (st : Store) : st.Fits [] :=
  ⟨List.nodup_nil, by simp⟩

theorem Fits.mono {st st' : Store} (hs : st.scopes.length ≤ st'.scopes.length)
    (hc : st.classes.length ≤ st'.classes.length) {table : Bindings} (h : st.Fits table) :
    st'.Fits table :=
  ⟨h.nodup, fun b hb => (h.held b hb).mono hs hc⟩

theorem Fits.bind {st : Store} {table : Bindings} (h : st.Fits table) (name : Label)
    {value : Descriptor} (hvalue : st.Holds value) : st.Fits (table.bind name value) := by
  refine ⟨Bindings.nodup_names_bind name value h.nodup, fun b hb => ?_⟩
  rcases Bindings.mem_of_mem_bind hb with hb | rfl
  · exact h.held b hb
  · exact hvalue

theorem Fits.holds_of_get? {st : Store} {table : Bindings} (h : st.Fits table) {name : Label}
    {d : Descriptor} (hd : table.get? name = some d) : st.Holds d :=
  h.held _ (Bindings.mem_of_get? hd)

/-! ### Writing to a sound store -/

section Write

variable {st : Store} (hst : st.Sound)

include hst

/-- A store with the same scopes is sound if its classes stand in scopes it has. -/
theorem Sound.of_scopes_eq {st' : Store} (hscopes : st'.scopes = st.scopes)
    (hclasses : st.classes.length ≤ st'.classes.length)
    (hscope : ∀ id s, (st'.cls id).scope = some s → st.HasScope s) : st'.Sound := by
  have hread : ∀ s, st'.scope s = st.scope s := scope_of_scopes_eq hscopes
  have hlen : st.scopes.length ≤ st'.scopes.length := Nat.le_of_eq (by rw [hscopes])
  constructor
  · intro s p hp
    exact hst.parent_lt s p (hread s ▸ hp)
  · intro s c hc
    rw [hread] at hc ⊢
    obtain ⟨hc, hp⟩ := hst.child s c hc
    exact ⟨Nat.lt_of_lt_of_le hc hlen, hp⟩
  · intro s
    rw [hread]
    exact (hst.vars s).mono hlen hclasses
  · intro s
    rw [hread]
    exact (hst.imports s).mono hlen hclasses
  · intro id s h
    exact Nat.lt_of_lt_of_le (hscope id s h) hlen

theorem Sound.addClass {c : ClassInfo} (hc : ∀ s, c.scope = some s → st.HasScope s) :
    (st.addClass c).2.Sound := by
  refine hst.of_scopes_eq rfl (by simp) ?_
  intro id s hs
  by_cases hid : id = (st.addClass c).1
  · rw [hid, cls_addClass_new] at hs
    exact hc s hs
  · rw [cls_addClass_of_ne st hid] at hs
    exact hst.class_scope id s hs

theorem Sound.modifyClass {id : ClassId} {f : ClassInfo → ClassInfo}
    (hf : ∀ s, (f (st.cls id)).scope = some s → st.HasScope s) : (st.modifyClass id f).Sound := by
  refine hst.of_scopes_eq rfl (by simp) ?_
  intro j s hs
  by_cases hj : j = id
  · subst hj
    by_cases hhas : st.HasClass j
    · rw [cls_modifyClass_self st f hhas] at hs
      exact hf s hs
    -- a number without a class stands in no scope
    · have hhas' : ¬ (st.modifyClass j f).HasClass j := by
        simpa only [HasClass, length_classes_modifyClass] using hhas
      rw [cls_of_not_hasClass hhas'] at hs
      simp [default] at hs
  · rw [cls_modifyClass_of_ne st f hj] at hs
    exact hst.class_scope j s hs

/-- Changing the tables of a scope keeps a store sound if the new tables fit it. -/
theorem Sound.modifyScope {t : ScopeId} {f : ScopeInfo → ScopeInfo} (ht : st.HasScope t)
    (hparent : ∀ info, (f info).parent = info.parent)
    (hchildren : ∀ info, (f info).children = info.children)
    (hvars : st.Fits (f (st.scope t)).vars) (himports : st.Fits (f (st.scope t)).imports) :
    (st.modifyScope t f).Sound := by
  have hlen : st.scopes.length ≤ (st.modifyScope t f).scopes.length := by simp
  have hclasses : st.classes.length ≤ (st.modifyScope t f).classes.length := Nat.le_refl _
  constructor
  · intro s p hp
    rw [scope_modifyScope_field st f ScopeInfo.parent hparent] at hp
    exact hst.parent_lt s p hp
  · intro s c hc
    rw [scope_modifyScope_field st f ScopeInfo.children hchildren] at hc
    rw [scope_modifyScope_field st f ScopeInfo.parent hparent]
    obtain ⟨hc, hp⟩ := hst.child s c hc
    exact ⟨Nat.lt_of_lt_of_le hc hlen, hp⟩
  · intro s
    by_cases hst' : s = t
    · rw [hst', scope_modifyScope_self st t f ht]
      exact hvars.mono hlen hclasses
    · rw [scope_modifyScope_of_ne st f hst']
      exact (hst.vars s).mono hlen hclasses
  · intro s
    by_cases hst' : s = t
    · rw [hst', scope_modifyScope_self st t f ht]
      exact himports.mono hlen hclasses
    · rw [scope_modifyScope_of_ne st f hst']
      exact (hst.imports s).mono hlen hclasses
  · intro id s hs
    exact Nat.lt_of_lt_of_le (hst.class_scope id s hs) hlen

theorem Sound.bindVar {t : ScopeId} (label : Label) {d : Descriptor} (ht : st.HasScope t)
    (hd : st.Holds d) : (st.bindVar t label d).Sound :=
  hst.modifyScope ht (fun _ => rfl) (fun _ => rfl) ((hst.vars t).bind label hd) (hst.imports t)

theorem Sound.bindImport {t : ScopeId} (label : Label) {d : Descriptor} (ht : st.HasScope t)
    (hd : st.Holds d) : (st.bindImport t label d).Sound :=
  hst.modifyScope ht (fun _ => rfl) (fun _ => rfl) (hst.vars t) ((hst.imports t).bind label hd)

theorem Sound.addChild {t : ScopeId} (className : Option String) (ht : st.HasScope t) :
    (st.addChild t className).2.Sound := by
  have hlen : st.scopes.length ≤ (st.addChild t className).2.scopes.length := by simp
  have hclasses : st.classes.length ≤ (st.addChild t className).2.classes.length := Nat.le_refl _
  have hparent : ∀ {s}, st.HasScope s →
      ((st.addChild t className).2.scope s).parent = (st.scope s).parent := by
    intro s h
    rcases st.addChild_cases t className s with rfl | rfl | e
    · exact absurd h (Nat.lt_irrefl _)
    · rw [scope_addChild_self st className ht]
    · rw [e]
  -- the children that were there keep their parents
  have hold : ∀ {s c}, c ∈ (st.scope s).children →
      (st.addChild t className).2.HasScope c ∧
        ((st.addChild t className).2.scope c).parent = some s := by
    intro s c hc
    obtain ⟨hc, hp⟩ := hst.child s c hc
    exact ⟨Nat.lt_of_lt_of_le hc hlen, by rw [hparent hc, hp]⟩
  constructor
  · intro s p hp
    rcases st.addChild_cases t className s with rfl | rfl | e
    · rw [scope_addChild_new] at hp
      rw [← Option.some.inj hp]
      exact ht
    · rw [scope_addChild_self st className ht] at hp
      exact hst.parent_lt s p hp
    · rw [e] at hp
      exact hst.parent_lt s p hp
  · intro s c hc
    rcases st.addChild_cases t className s with rfl | rfl | e
    · rw [scope_addChild_new] at hc
      simp at hc
    · rw [scope_addChild_self st className ht] at hc
      rcases List.mem_append.mp hc with hc | hc
      · exact hold hc
      · rw [List.mem_singleton.mp hc, scope_addChild_new]
        exact ⟨by simp [HasScope], rfl⟩
    · rw [e] at hc
      exact hold hc
  · intro s
    rcases st.addChild_cases t className s with rfl | rfl | e
    · rw [scope_addChild_new]
      exact .nil _
    · rw [scope_addChild_self st className ht]
      exact (hst.vars s).mono hlen hclasses
    · rw [e]
      exact (hst.vars s).mono hlen hclasses
  · intro s
    rcases st.addChild_cases t className s with rfl | rfl | e
    · rw [scope_addChild_new]
      exact .nil _
    · rw [scope_addChild_self st className ht]
      exact (hst.imports s).mono hlen hclasses
    · rw [e]
      exact (hst.imports s).mono hlen hclasses
  · intro id s hs
    exact Nat.lt_of_lt_of_le (hst.class_scope id s hs) hlen

end Write

end Store

end ScriptScope
