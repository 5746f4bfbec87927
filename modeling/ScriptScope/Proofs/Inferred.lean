import ScriptScope.Inference.Infer
import ScriptScope.Proofs.Sound

/-!
# Where inferred values come from

Whatever an expression is inferred to be is bound somewhere, is made up from the builtin symbols, is
an imported name or an instance of a host type, or is the result of a function that is one of these.
So a property of values that all of these have is one of every inferred value: `forall_infer`.  One
such property is that whatever the value refers to is in the store (`Sound.holdsValue_infer`).
-/

namespace ScriptScope.Store

/-- A property that everything has that an expression in a scope can yield. -/
structure Sources (st : Store) (s : ScopeId) (V : Value → Prop) : Prop where
  unknown : V .unknown
  host : ∀ typeName, V (.ofHostType typeName)
  imported : ∀ name, V (.held (.static name))
  bound : ∀ t, ∀ b ∈ (st.scope t).vars ++ (st.scope t).imports, V (.held b.2)
  builtin : ∀ {name info}, st.builtin? s name = some info → V (.made info)
  result : ∀ {fn : Function} {typeName}, V (.held (.function fn)) → fn.returns = some typeName →
    V (.held (.instanceOf typeName fn.scope))

namespace Sources

variable {st : Store} {s : ScopeId} {V : Value → Prop} (h : st.Sources s V)

include h

theorem of_get? {t : ScopeId} {label : Label} {d : Descriptor}
    (hd : (st.scope t).vars.get? label = some d) : V (.held d) :=
  h.bound t _ (List.mem_append_left _ (Bindings.mem_of_get? hd))

theorem of_lookup? {t : ScopeId} {label : Label} {d : Descriptor}
    (hd : (st.scope t).lookup? label = some d) : V (.held d) := by
  rw [ScopeInfo.lookup?, Option.orElse_eq_orElse, Option.orElse_eq_or, Option.or_eq_some_iff] at hd
  rcases hd with hd | ⟨-, hd⟩
  · exact h.of_get? hd
  · exact h.bound t _ (List.mem_append_right _ (Bindings.mem_of_get? hd))

theorem of_find (label : Label) : V (st.find s label) := by
  unfold find
  split
  · rename_i d hd
    obtain ⟨t, -, ht⟩ := List.exists_of_findSome?_eq_some hd
    exact h.of_lookup? ht
  · split
    · rename_i info hinfo
      obtain ⟨text, -, htext⟩ := Option.bind_eq_some_iff.mp hinfo
      exact h.builtin htext
    · exact h.unknown

theorem of_bodyBinding? {c : ClassInfo} {member : Label} {d : Descriptor}
    (hd : st.bodyBinding? c member = some d) : V (.held d) := by
  obtain ⟨t, -, hd⟩ := Option.bind_eq_some_iff.mp hd
  split at hd
  · exact h.of_get? hd
  · simp at hd

theorem of_classAttribute? {ctx : Context} {start : Ancestor} {member : String} {v : Value}
    (hv : classAttribute? ctx st start member = some v) : V v := by
  obtain ⟨a, -, ha⟩ := List.exists_of_findSome?_eq_some hv
  cases a with
  | host members =>
    obtain ⟨hostType, -, rfl⟩ := Option.map_eq_some_iff.mp ha
    exact h.host hostType
  | script id =>
    obtain ⟨d, hd, rfl⟩ := Option.map_eq_some_iff.mp ha
    exact h.of_bodyBinding? hd
  | made info =>
    obtain ⟨d, hd, rfl⟩ := Option.map_eq_some_iff.mp ha
    exact h.of_bodyBinding? hd

theorem of_qualified (ctx : Context) (base : Value) (typeName member : String) :
    V (qualified ctx base typeName member) := by
  unfold qualified
  dsimp only
  split
  · exact h.unknown
  · split
    · exact h.imported _
    · split
      · split
        · exact h.imported _
        · exact h.unknown
      · exact h.unknown

theorem of_memberOf (base : Value) (label : Label) : V (st.memberOf s base label) := by
  unfold memberOf
  split
  · dsimp only
    split
    · exact h.unknown
    · split
      · exact h.host _
      · split
        · rename_i v hv
          obtain ⟨start, -, hstart⟩ := Option.bind_eq_some_iff.mp hv
          exact h.of_classAttribute? hstart
        · exact h.of_qualified _ _ _ _
  · exact h.unknown

/-- A call yields an instance, or else its callee. -/
theorem of_resultOf {v : Value} (hv : V v) : V (resultOf v) := by
  unfold resultOf
  split
  · exact h.host _
  · split
    · exact h.unknown
    · split
      · exact h.unknown
      · rename_i hreturns _
        exact h.result hv hreturns
  · exact hv

/-- A property of all sources is one of every inferred value. -/
theorem forall_infer {e : Expr} {v : Value} (hv : st.infer s e = some v) : V v := by
  fun_induction infer st s e generalizing v with
  | case1 | case14 | case15 | case16 =>
    rw [← Option.some.inj hv]
    exact h.unknown
  | case2 name =>
    rw [← Option.some.inj hv]
    exact h.of_find (some name)
  | case3 | case4 | case5 | case8 | case9 =>
    rw [← Option.some.inj hv]
    exact h.host _
  | case6 object label ih =>
    obtain ⟨base, -, rfl⟩ := Option.map_eq_some_iff.mp hv
    exact h.of_memberOf base label
  | case7 callee ih =>
    obtain ⟨f, hf, rfl⟩ := Option.map_eq_some_iff.mp hv
    exact h.of_resultOf (ih hf)
  | case10 left right hfloat hinteger ihl ihr =>
    obtain ⟨l, hl, hv⟩ := Option.bind_eq_some_iff.mp hv
    split at hv
    · exact ihr hv
    · rw [← Option.some.inj hv]
      exact ihl hl
  | case11 operand ih => exact ih hv
  | case12 inner ih => exact ih hv
  | case13 inner ih => exact ih hv
  | case17 => simp at hv

end Sources

/-- All sources of values in a sound store refer to what is in it. -/
theorem Sound.sources {st : Store} (hst : st.Sound) {s : ScopeId} (hs : st.HasScope s) :
    st.Sources s st.HoldsValue where
  unknown := trivial
  host typeName t ht := by simp at ht
  imported name := trivial
  bound t b hb := by
    rcases List.mem_append.mp hb with hb | hb
    · exact (hst.vars t).held b hb
    · exact (hst.imports t).held b hb
  -- a class made up from the builtin symbols stands in the scope that asks
  builtin := by
    intro name info hinfo t ht
    unfold builtin? at hinfo
    simp only [Option.ite_none_left_eq_some, Option.some.injEq] at hinfo
    rw [← hinfo.2] at ht
    exact Option.some.inj ht ▸ hs
  result := by
    rintro fn typeName ⟨u, hu, hhas⟩ - t ht
    rw [hu] at ht
    exact Option.some.inj ht ▸ hhas

/-- What is inferred of an expression is in the store. -/
theorem Sound.holdsValue_infer {st : Store} (hst : st.Sound) {s : ScopeId} (hs : st.HasScope s)
    {e : Expr} {v : Value} (hv : st.infer s e = some v) : st.HoldsValue v :=
  (hst.sources hs).forall_infer hv

end ScriptScope.Store
