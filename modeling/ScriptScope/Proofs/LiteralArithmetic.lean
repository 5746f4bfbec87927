import ScriptScope.Inference.Build

/-!
# Arithmetic on number literals

An operator looks at its operands as they are written: a float literal among the two decides, two
integer literals decide, and otherwise the left operand does, since it always has a type.  So what
stands inside a right operand has no say.  `FloatLeads` tells which float literals have: those that
are reached from the outside through parentheses, signs and left operands, and those that are the
right operand of an operator on this way.

Main statement: `infer_arithmetic`.
-/

namespace ScriptScope

namespace Expr

/-- Expressions made from number literals by parentheses, signs and binary operators, whichever these
are: no operator is treated in a way of its own. -/
inductive IsArithmetic : Expr → Prop where
  | integer : IsArithmetic .integer
  | float : IsArithmetic .float
  | paren {inner : Expr} : IsArithmetic inner → IsArithmetic (.paren inner)
  | unary {operand : Expr} : IsArithmetic operand → IsArithmetic (.unary operand)
  | binary {left right : Expr} :
    IsArithmetic left → IsArithmetic right → IsArithmetic (.binary left right)

/-- Some literal in an expression is a float. -/
inductive HasFloat : Expr → Prop where
  | float : HasFloat .float
  | paren {inner : Expr} : HasFloat inner → HasFloat (.paren inner)
  | unary {operand : Expr} : HasFloat operand → HasFloat (.unary operand)
  | left {left right : Expr} : HasFloat left → HasFloat (.binary left right)
  | right {left right : Expr} : HasFloat right → HasFloat (.binary left right)

/-- A float literal decides the type of an expression. -/
inductive FloatLeads : Expr → Prop where
  | float : FloatLeads .float
  | paren {inner : Expr} : FloatLeads inner → FloatLeads (.paren inner)
  | unary {operand : Expr} : FloatLeads operand → FloatLeads (.unary operand)
  | left {left right : Expr} : FloatLeads left → FloatLeads (.binary left right)
  | right {left : Expr} : FloatLeads (.binary left .float)

/-- The right operand of every operator is a literal, as in `1 + 2.5 - 3`. -/
inductive IsChain : Expr → Prop where
  | integer : IsChain .integer
  | float : IsChain .float
  | paren {inner : Expr} : IsChain inner → IsChain (.paren inner)
  | unary {operand : Expr} : IsChain operand → IsChain (.unary operand)
  | binary {left right : Expr} :
    IsChain left → right.isNumber = true → IsChain (.binary left right)

theorem isFloat_eq_true_iff {e : Expr} : e.isFloat = true ↔ e = .float := by
  cases e <;> simp [isFloat]

theorem FloatLeads.hasFloat {e : Expr} (h : FloatLeads e) : HasFloat e := by
  induction h with
  | float => exact .float
  | paren _ ih => exact .paren ih
  | unary _ ih => exact .unary ih
  | left _ ih => exact .left ih
  | right => exact .right .float

/-- In a chain every float literal decides. -/
theorem IsChain.floatLeads_of_hasFloat {e : Expr} (h : IsChain e) (hfloat : HasFloat e) :
    FloatLeads e := by
  induction h with
  | integer => cases hfloat
  | float => exact .float
  | paren _ ih =>
    cases hfloat with
    | paren hinner => exact .paren (ih hinner)
  | unary _ ih =>
    cases hfloat with
    | unary hoperand => exact .unary (ih hoperand)
  | binary _ hright ih =>
    cases hfloat with
    | left hleft => exact .left (ih hleft)
    | right hlast =>
      -- of the two kinds of literals, only a float has a float in it
      cases hlast with
      | float => exact .right
      | _ => simp [isNumber] at hright

/-- A float literal among the operands, or one that decides the left operand, decides. -/
theorem floatLeads_binary_iff {left right : Expr} :
    FloatLeads (.binary left right) ↔
      (left.isFloat || right.isFloat) = true ∨ FloatLeads left := by
  rw [Bool.or_eq_true, isFloat_eq_true_iff, isFloat_eq_true_iff]
  constructor
  · intro h
    cases h with
    | left hleft => exact .inr hleft
    | right => exact .inl (.inr rfl)
  · rintro ((rfl | rfl) | hleft)
    · exact .left .float
    · exact .right
    · exact .left hleft

end Expr

namespace Store

/-- What is inferred for arithmetic on literals has the type of floats if a float literal decides,
and the type of integers otherwise. -/
theorem infer_of_isArithmetic (st : Store) (s : ScopeId) {e : Expr} (h : e.IsArithmetic) :
    (e.FloatLeads → st.infer s e = some (.ofHostType Host.floatingType)) ∧
      (¬ e.FloatLeads → st.infer s e = some (.ofHostType Host.integralType)) := by
  induction h with
  | integer => exact ⟨fun hleads => (nomatch hleads), fun _ => rfl⟩
  | float => exact ⟨fun _ => rfl, fun hnot => absurd .float hnot⟩
  | paren _ ih =>
    rw [infer]
    exact ⟨fun | .paren hinner => ih.1 hinner, fun hnot => ih.2 fun hinner => hnot (.paren hinner)⟩
  | unary _ ih =>
    rw [infer]
    exact ⟨fun | .unary hinner => ih.1 hinner, fun hnot => ih.2 fun hinner => hnot (.unary hinner)⟩
  | @binary left right _ _ ih _ =>
    rw [infer, Expr.floatLeads_binary_iff]
    by_cases hfloat : (left.isFloat || right.isFloat) = true
    · rw [ite_cond_eq_true _ _ (eq_true hfloat)]
      exact ⟨fun _ => rfl, fun hnot => absurd (.inl hfloat) hnot⟩
    rw [ite_cond_eq_false _ _ (eq_false hfloat), or_iff_right hfloat]
    by_cases hinteger : (left.isInteger && right.isInteger) = true
    · rw [ite_cond_eq_true _ _ (eq_true hinteger)]
      refine ⟨fun hleads => ?_, fun _ => rfl⟩
      -- no float decides an integer literal
      cases hleads <;> simp [Expr.isInteger] at hinteger
    rw [ite_cond_eq_false _ _ (eq_false hinteger)]
    -- the left operand has a type, so the right one is not asked
    refine ⟨fun hleads => ?_, fun hnot => ?_⟩
    · rw [ih.1 hleads]
      rfl
    · rw [ih.2 hnot]
      rfl

/-- **Arithmetic on literals.**  Its type is that of floats if a float literal decides and that of
integers otherwise.  So it is never that of floats without a float literal, and in a chain it is
that of floats whenever there is one. -/
theorem infer_arithmetic (st : Store) (s : ScopeId) {e : Expr} (h : e.IsArithmetic) :
    (e.FloatLeads → st.infer s e = some (.held (.instanceOf "double" none))) ∧
      (¬ e.FloatLeads → st.infer s e = some (.held (.instanceOf "long" none))) ∧
      (e.FloatLeads → e.HasFloat) ∧ (e.IsChain → e.HasFloat → e.FloatLeads) := by
  obtain ⟨hfloat, hinteger⟩ := st.infer_of_isArithmetic s h
  exact ⟨hfloat, hinteger, Expr.FloatLeads.hasFloat, Expr.IsChain.floatLeads_of_hasFloat⟩

/-- The expression `(-1 + 2.5) * 3`. -/
theorem infer_arithmetic_signedSum :
    Expr.IsArithmetic (.binary (.paren (.binary (.unary .integer) .float)) .integer) ∧
      Expr.FloatLeads (.binary (.paren (.binary (.unary .integer) .float)) .integer) ∧
      (Analysis.empty {}).store.infer (Analysis.empty {}).root
          (.binary (.paren (.binary (.unary .integer) .float)) .integer) =
        some (.held (.instanceOf "double" none)) :=
  have harithmetic : Expr.IsArithmetic
      (.binary (.paren (.binary (.unary .integer) .float)) .integer) :=
    .binary (.paren (.binary (.unary .integer) .float)) .integer
  have hleads : Expr.FloatLeads
      (.binary (.paren (.binary (.unary .integer) .float)) .integer) := .left (.paren .right)
  ⟨harithmetic, hleads, (infer_arithmetic _ _ harithmetic).1 hleads⟩

/-- In `1 + 2 * 3.5` the float literal stands inside a right operand, and the type is that of
integers. -/
theorem not_infer_product :
    ¬ ∀ e : Expr, e.IsArithmetic → e.HasFloat →
      (Analysis.empty {}).store.infer (Analysis.empty {}).root e =
        some (.held (.instanceOf "double" none)) := by
  intro h
  have hproduct := h (.binary .integer (.binary .integer .float))
    (.binary .integer (.binary .integer .float)) (.right (.right .float))
  revert hproduct
  decide

end Store

end ScriptScope
