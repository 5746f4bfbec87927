import Mathlib.Logic.Relation
import ScriptScope.Proofs.Sound
import ScriptScope.Scope.Tree

/-!
# Following references to their end

The tree below a scope, the last scope below it and the chain of scopes around it are read off the
store by following references a bounded number of times.  In a sound store children are younger than
their parents, so the bound is never met: each of the three satisfies the equation that it would
have without one (`tree_eq`, `last_eq`, `chain_eq`).

From the last scope below a scope the way out leads through that scope (`mem_chain_last`), so
whoever looks a name up from where the text ends sees what is bound there.
-/

namespace ScriptScope.Store

variable {st st' : Store} {s : ScopeId}

/-! ### Downwards -/

/-- A number without a scope has nothing below it. -/
theorem children_of_not_hasScope (h : ¬ st.HasScope s) : (st.scope s).children = [] := by
  rw [scope_of_not_hasScope h]

/-- Any bound that covers the younger scopes will do. -/
theorem treeFrom_congr (hst : st.Sound) {m n : Nat} (hm : st.scopes.length ≤ s.index + m)
    (hn : st.scopes.length ≤ s.index + n) : st.treeFrom m s = st.treeFrom n s := by
  induction m generalizing s n with
  | zero =>
    have hnone : (st.scope s).children = [] := children_of_not_hasScope (Nat.not_lt.mpr hm)
    cases n with
    | zero => rfl
    | succ n => rw [treeFrom, treeFrom, hnone, List.map_nil]
  -- a child is younger, so one step less will do for it
  | succ m ih =>
    cases n with
    | zero =>
      have hnone : (st.scope s).children = [] := children_of_not_hasScope (Nat.not_lt.mpr hn)
      rw [treeFrom, treeFrom, hnone, List.map_nil]
    | succ n =>
      rw [treeFrom, treeFrom]
      congr 1
      refine List.map_congr_left fun c hc => ?_
      have hlt := hst.lt_child hc
      exact ih (by omega) (by omega)

/-- The tree of a scope has the trees of its children below it. -/
theorem tree_eq (hst : st.Sound) (s : ScopeId) :
    st.tree s = .mk (st.scope s).className (st.scope s).imports (st.scope s).vars
      ((st.scope s).children.map st.tree) := by
  have hmore : st.tree s = st.treeFrom (st.scopes.length + 1) s :=
    treeFrom_congr hst (by omega) (by omega)
  rw [hmore, treeFrom]
  rfl

/-- The tree of a scope is made of the scopes from its number on. -/
theorem tree_eq_of_scope_eq (hst : st.Sound) (hst' : st'.Sound) {c : ScopeId} (hc : st.HasScope c)
    (h : ∀ t : ScopeId, st.HasScope t → c.index ≤ t.index → st'.scope t = st.scope t) :
    st'.tree c = st.tree c := by
  -- on the number of scopes that are younger
  induction hk : st.scopes.length - c.index using Nat.strongRecOn generalizing c with
  | ind k ih =>
    rw [tree_eq hst, tree_eq hst', h c hc (Nat.le_refl _)]
    congr 1
    refine List.map_congr_left fun d hd => ?_
    have hlt := hst.lt_child hd
    have hhas := (hst.child c d hd).1
    unfold HasScope at hhas
    refine ih _ ?_ hhas (fun t ht hle => h t ht (by omega)) rfl
    omega

theorem lastFrom_congr (hst : st.Sound) {m n : Nat} (hm : st.scopes.length ≤ s.index + m)
    (hn : st.scopes.length ≤ s.index + n) : st.lastFrom m s = st.lastFrom n s := by
  induction m generalizing s n with
  | zero =>
    have hnone : (st.scope s).children = [] := children_of_not_hasScope (Nat.not_lt.mpr hm)
    cases n with
    | zero => rfl
    | succ n => rw [lastFrom, lastFrom, hnone, List.getLast?_nil]
  | succ m ih =>
    cases n with
    | zero =>
      have hnone : (st.scope s).children = [] := children_of_not_hasScope (Nat.not_lt.mpr hn)
      rw [lastFrom, lastFrom, hnone, List.getLast?_nil]
    | succ n =>
      rw [lastFrom, lastFrom]
      cases hlast : (st.scope s).children.getLast? with
      | none => rfl
      | some c =>
        have hlt := hst.lt_child (List.mem_of_getLast? hlast)
        exact ih (by omega) (by omega)

/-- The last scope below a scope is the last scope below its last child. -/
theorem last_eq (hst : st.Sound) (s : ScopeId) :
    st.last s = match (st.scope s).children.getLast? with
      | some c => st.last c
      | none => s := by
  have hmore : st.last s = st.lastFrom (st.scopes.length + 1) s :=
    lastFrom_congr hst (by omega) (by omega)
  rw [hmore, lastFrom]
  rfl

/-- The last scope below a scope depends on children alone. -/
theorem last_of_children_eq (hlen : st'.scopes.length = st.scopes.length)
    (hchildren : ∀ t, (st'.scope t).children = (st.scope t).children) (s : ScopeId) :
    st'.last s = st.last s := by
  have hfrom : ∀ bound s, st'.lastFrom bound s = st.lastFrom bound s := by
    intro bound
    induction bound with
    | zero => exact fun _ => rfl
    | succ bound ih =>
      intro s
      rw [lastFrom, lastFrom, hchildren]
      cases (st.scope s).children.getLast? with
      | none => rfl
      | some c => exact ih c
  unfold last
  rw [hlen, hfrom]

/-! ### Upwards -/

theorem chainFrom_congr (hst : st.Sound) {m n : Nat} (hm : s.index < m) (hn : s.index < n) :
    st.chainFrom m s = st.chainFrom n s := by
  induction m generalizing s n with
  | zero => omega
  | succ m ih =>
    cases n with
    | zero => omega
    | succ n =>
      rw [chainFrom, chainFrom]
      cases hparent : (st.scope s).parent with
      | none => rfl
      | some p =>
        have hlt := hst.parent_lt s p hparent
        exact congrArg (s :: ·) (ih (by omega) (by omega))

/-- The chain of a scope goes on with the chain of its parent. -/
theorem chain_eq (hst : st.Sound) (hs : st.HasScope s) :
    st.chain s = s :: match (st.scope s).parent with
      | some p => st.chain p
      | none => [] := by
  unfold HasScope at hs
  have hmore : st.chain s = st.chainFrom (st.scopes.length + 1) s :=
    chainFrom_congr hst hs (by omega)
  rw [hmore, chainFrom]
  rfl

/-! ### Where the text ends -/

/-- A scope leads to another by following last children. -/
def Spine (st : Store) : ScopeId → ScopeId → Prop :=
  Relation.ReflTransGen (fun a b => (st.scope a).children.getLast? = some b)

/-- The way depends on children alone. -/
theorem Spine.of_children_eq (h : ∀ t, (st'.scope t).children = (st.scope t).children)
    {a b : ScopeId} (hspine : st.Spine a b) : st'.Spine a b := by
  refine Relation.ReflTransGen.mono (fun c d hcd => ?_) a b hspine
  rw [h c]
  exact hcd

/-- All scopes on the way share the last scope below them. -/
theorem Spine.last_eq (hst : st.Sound) {a b : ScopeId} (h : st.Spine a b) :
    st.last a = st.last b := by
  induction h with
  | refl => rfl
  | tail _ hstep ih => rw [ih, Store.last_eq hst, hstep]

theorem mem_chain_self (hst : st.Sound) (hs : st.HasScope s) : s ∈ st.chain s := by
  rw [chain_eq hst hs]
  exact List.mem_cons_self ..

/-- A chain is closed under parents. -/
theorem parent_mem_chain (hst : st.Sound) {inner c p : ScopeId} (hinner : st.HasScope inner)
    (hc : c ∈ st.chain inner) (hp : (st.scope c).parent = some p) : p ∈ st.chain inner := by
  -- outwards along the chain, on the number of the scope it starts from
  induction hk : inner.index using Nat.strongRecOn generalizing inner with
  | ind k ih =>
    rw [chain_eq hst hinner, List.mem_cons] at hc ⊢
    unfold HasScope at hinner
    rcases hc with rfl | hc
    · have hlt := hst.parent_lt c p hp
      rw [hp]
      refine .inr (mem_chain_self hst ?_)
      unfold HasScope
      omega
    · cases hparent : (st.scope inner).parent with
      | none => simp [hparent] at hc
      | some q =>
        have hlt := hst.parent_lt inner q hparent
        rw [hparent] at hc
        refine .inr (ih q.index (by omega) ?_ hc rfl)
        unfold HasScope
        omega

/-- From the last scope below a scope, the way out leads through it. -/
theorem mem_chain_last (hst : st.Sound) (hs : st.HasScope s) :
    st.HasScope (st.last s) ∧ s ∈ st.chain (st.last s) := by
  -- on the number of scopes that are younger
  induction hk : st.scopes.length - s.index using Nat.strongRecOn generalizing s with
  | ind k ih =>
    rw [last_eq hst]
    cases hlast : (st.scope s).children.getLast? with
    | none => exact ⟨hs, mem_chain_self hst hs⟩
    | some c =>
      have hc := List.mem_of_getLast? hlast
      have hlt := hst.lt_child hc
      obtain ⟨hhas, hparent⟩ := hst.child s c hc
      unfold HasScope at hs hhas
      obtain ⟨hend, hmem⟩ := ih (st.scopes.length - c.index) (by omega) hhas rfl
      exact ⟨hend, parent_mem_chain hst hend hmem hparent⟩

end ScriptScope.Store
