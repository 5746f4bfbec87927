import ScriptScope.Proofs.Unfolding

/-!
# Lookups after a write

A lookup reads the tables of the scopes on the way out, and nothing else of a store.  So it answers
the same in two stores that have the same scopes (`find_of_scopes_eq`), and binding one name changes
the answer for no other (`find_bindVar_of_ne`).  For the name that is bound, the answer changes
wherever no scope further in hides it (`binding?_eq`, `find_bindVar_self`).
-/

namespace ScriptScope.Store

variable {st st' : Store} {s t : ScopeId} {name other : Label} {d : Descriptor}

/-! ### Chains -/

/-- The way out depends on parents alone. -/
theorem chain_of_parents_eq (hlen : st'.scopes.length = st.scopes.length)
    (hparent : ∀ t, (st'.scope t).parent = (st.scope t).parent) (s : ScopeId) :
    st'.chain s = st.chain s := by
  have hfrom : ∀ bound s, st'.chainFrom bound s = st.chainFrom bound s := by
    intro bound
    induction bound with
    | zero => exact fun _ => rfl
    | succ bound ih =>
      intro s
      rw [chainFrom, chainFrom, hparent]
      cases (st.scope s).parent with
      | none => rfl
      | some p => exact congrArg (s :: ·) (ih p)
  unfold chain
  rw [hlen, hfrom]

theorem chain_bindVar (st : Store) (t : ScopeId) (label : Label) (d : Descriptor) (s : ScopeId) :
    (st.bindVar t label d).chain s = st.chain s :=
  chain_of_parents_eq (by simp) (by simp) s

/-! ### Single names -/

/-- A name is bound as the scope binds it, or else as the scopes around it do. -/
theorem binding?_eq (hst : st.Sound) (hs : st.HasScope s) (name : Label) :
    st.binding? s name =
      ((st.scope s).lookup? name).or ((st.scope s).parent.bind (st.binding? · name)) := by
  unfold binding?
  rw [chain_eq hst hs, List.findSome?_cons]
  cases (st.scope s).lookup? name with
  | some d => rfl
  | none =>
    cases (st.scope s).parent with
    | none => rfl
    | some p => rfl

/-- What a lookup finds, if anything binds the name. -/
theorem find_eq_held_iff : st.find s name = .held d ↔
    st.binding? s name = some d ∨
      st.binding? s name = none ∧ name.bind (st.builtin? s) = none ∧ d = .unknown := by
  unfold find
  cases st.binding? s name with
  | some c => simp
  | none =>
    cases name.bind (st.builtin? s) with
    | some info => simp
    | none => simp [Value.unknown, eq_comm]

/-- A class of the store is found only where it is bound. -/
theorem find_eq_script_iff {id : ClassId} :
    st.find s name = .held (.script id) ↔ st.binding? s name = some (.script id) := by
  rw [find_eq_held_iff]
  simp

/-- Lookups read scopes alone. -/
theorem find_of_scopes_eq (h : st'.scopes = st.scopes) (s : ScopeId) (name : Label) :
    st'.find s name = st.find s name := by
  have hread : ∀ t, st'.scope t = st.scope t := scope_of_scopes_eq h
  have hchain : st'.chain s = st.chain s :=
    chain_of_parents_eq (by rw [h]) (fun t => by rw [hread]) s
  unfold find binding? builtin? builtinMembers
  simp only [hchain, hread]

/-! ### Binding a variable -/

theorem lookup?_bindVar_of_ne (h : other ≠ name) (u : ScopeId) :
    ((st.bindVar t name d).scope u).lookup? other = (st.scope u).lookup? other := by
  unfold ScopeInfo.lookup?
  rw [imports_bindVar]
  congr 1
  exact scope_modifyScope_field st _ (fun info => info.vars.get? other) fun info => by
    simp only [Bindings.get?_bind, h, ↓reduceIte]

theorem lookup?_bindVar_self (ht : st.HasScope t) :
    ((st.bindVar t name d).scope t).lookup? name = some d := by
  rw [ScopeInfo.lookup?, vars_bindVar_self st name d ht, Bindings.get?_bind]
  simp

/-- The other names are found as before. -/
theorem find_bindVar_of_ne (h : other ≠ name) (s : ScopeId) :
    (st.bindVar t name d).find s other = st.find s other := by
  unfold find binding? builtin? builtinMembers
  simp only [chain_bindVar, lookup?_bindVar_of_ne h, context_bindVar]

/-- A name is found where it was just bound. -/
theorem find_bindVar_self (hst : st.Sound) (hs : st.HasScope s) (hd : st.Holds d) :
    (st.bindVar s name d).find s name = .held d := by
  have hhas : (st.bindVar s name d).HasScope s := by
    simpa only [HasScope, length_scopes_bindVar] using hs
  apply find_of_binding?
  rw [binding?_eq (hst.bindVar name hs hd) hhas, lookup?_bindVar_self hs, Option.some_or]

end ScriptScope.Store
