import ScriptScope.Proofs.Inferred
import ScriptScope.Proofs.Trace

/-!
# Where values come from

A lookup or an expression yields nothing new but instances and imported names: a function was bound
before it was found, and a class that is made up for an answer has named members.
`Terms` says which functions may be bound; if all functions in the tables of a store are among them,
so is whatever an expression is inferred to be (`Functions.allows_infer`).
-/

namespace ScriptScope

/-- A class whose members all have names. -/
def ClassInfo.Named (c : ClassInfo) : Prop :=
  ∀ m ∈ c.members, m.isSome = true

theorem ClassInfo.named_placeholder (s : ScopeId) : (placeholder s).Named := by
  simp [Named, placeholder]

/-- The terms on which a walk writes: the functions that it may bind, and the classes, by name, that
may take receivers over. -/
structure Terms where
  function : Function → Prop
  taker : String → ClassId → Prop

namespace Terms

/-- Everything is allowed. -/
def free : Terms := ⟨fun _ => True, fun _ _ => True⟩

/-- A value that may be bound. -/
def Allows (terms : Terms) : Value → Prop
  | .held (.function fn) => terms.function fn
  | .held .unknown | .held (.instanceOf _ _) | .held (.static _) | .held (.script _) => True
  | .made info => info.Named

end Terms

namespace Visit

/-- What a statement defines meets the terms. -/
structure Meets (v : Visit) (terms : Terms) : Prop where
  function : ∀ fn, v.DefinesFunction fn → terms.function fn
  taker : ∀ name id, v.DefinesClass name id → terms.taker name id

theorem meets_free (v : Visit) : v.Meets .free :=
  ⟨fun _ _ => trivial, fun _ _ _ => trivial⟩

/-- A statement that ends by binding a name in its scope binds it. -/
theorem Binds.of_outcome {v : Visit} {st : Store} {name : String} {d : Descriptor}
    (h : v.outcome = .done (st.bindVar v.scope (some name) d)) (hs : st.HasScope v.scope) :
    v.Binds name d := by
  unfold Binds
  rw [h]
  refine ⟨rfl, ?_⟩
  show ((st.bindVar v.scope (some name) d).scope v.scope).vars.get? (some name) = some d
  rw [Store.vars_bindVar_self st _ d hs, Bindings.get?_bind, ite_cond_eq_true _ _ (eq_self _)]

/-- A statement defines one function at most. -/
theorem DefinesFunction.unique {v : Visit} {fn fn' : Function} (h : v.DefinesFunction fn)
    (h' : v.DefinesFunction fn') : fn = fn' := by
  obtain ⟨body, hstmt, -, hbound⟩ := h
  obtain ⟨body', hstmt', -, hbound'⟩ := h'
  have hname : fn.name = fn'.name := (Stmt.function.inj (hstmt.symm.trans hstmt')).1
  rw [hname] at hbound
  exact Descriptor.function.inj (Option.some.inj (hbound.symm.trans hbound'))

end Visit

namespace Store

/-- Every binding of the store has the property. -/
def Every (st : Store) (P : Label × Descriptor → Prop) : Prop :=
  ∀ t, ∀ b ∈ (st.scope t).vars ++ (st.scope t).imports, P b

/-- Every function that a table of the store binds has the property. -/
def Functions (st : Store) (P : Function → Prop) : Prop :=
  st.Every fun b => ∀ fn, b.2 = .function fn → P fn

/-- A class made up from the builtin symbols lists members by name. -/
theorem named_of_builtin? {st : Store} {s : ScopeId} {name : String} {info : ClassInfo}
    (h : st.builtin? s name = some info) : info.Named := by
  unfold builtin? at h
  simp only [Option.ite_none_left_eq_some, Option.some.injEq] at h
  rw [← h.2]
  simp [ClassInfo.Named]

/-- If all functions in the tables may be bound, so may whatever a value can come from. -/
theorem Functions.sources {st : Store} {terms : Terms} (hst : st.Functions terms.function)
    (s : ScopeId) : st.Sources s terms.Allows where
  unknown := trivial
  host typeName := trivial
  imported name := trivial
  bound t b hb := by
    cases hd : b.2 with
    | function fn => exact hst t b hb fn hd
    | _ => trivial
  builtin := named_of_builtin?
  result _ _ := trivial

/-- Whatever an expression is inferred to be may be bound. -/
theorem Functions.allows_infer {st : Store} {terms : Terms} (hst : st.Functions terms.function)
    {s : ScopeId} {e : Expr} {v : Value} (hv : st.infer s e = some v) : terms.Allows v :=
  (hst.sources s).forall_infer hv

end Store

end ScriptScope
