import ScriptScope.Inference.Lineage
import ScriptScope.Syntax.Expr

/-!
# Types of expressions

`Store.infer` tells what is known about an expression that stands in a scope. It has no answer only
for an expression that cannot be read. Calls give the result of the callee, where a class stands for
its own instances; operators on number literals follow the literals, and any other operator takes
after its left operand if that is known.
-/

namespace ScriptScope

namespace Value

/-- An instance of a host type. -/
def ofHostType (typeName : String) : Value := held (.instanceOf typeName none)

end Value

namespace Store

/-! ### Member access -/

/-- The type of a member of a host class. -/
def hostMemberType? (ctx : Context) (typeName member : String) : Option String :=
  (ctx.reflect typeName).bind (fun members => Host.memberType? members member)

/-- The script class behind a value: the class itself, or that of an instance. -/
def classBehind? (st : Store) : Value → Option Ancestor
  | .held (.instanceOf typeName (some s)) => ancestorOf? (st.find s (some typeName))
  | value => ancestorOf? value

/-- An attribute as a place on a lineage has it. -/
def attributeAt? (st : Store) (member : String) : Ancestor → Option Value
  | .host members => (Host.memberType? members member).map Value.ofHostType
  | .script id => (st.bodyBinding? (st.cls id) (some member)).map .held
  | .made info => (st.bodyBinding? info (some member)).map .held

/-- An attribute of a class: that of the first place on its lineage that has one. -/
def classAttribute? (ctx : Context) (st : Store) (start : Ancestor) (member : String) :
    Option Value :=
  (lineage ctx st start).findSome? (st.attributeAt? member)

/-- A qualified name as a module, as a host class or, below an imported name, as a member of that
module. -/
def qualified (ctx : Context) (base : Value) (typeName member : String) : Value :=
  let name := typeName ++ "." ++ member
  if Text.startsWith typeName "<" then .unknown
  else if (ctx.moduleMembers name).isSome || (ctx.reflect name).isSome then .held (.static name)
  else match base with
    | .held (.static _) =>
      if member ∈ (ctx.moduleMembers typeName).getD [] then .held (.static name) else .unknown
    | _ => .unknown

/-- What is known about a member of a value, in a scope. -/
def memberOf (st : Store) (s : ScopeId) (base : Value) (label : Label) : Value :=
  match st.valueType base, label with
  | some typeName, some member =>
    if typeName = "" then .unknown
    else
      let ctx := (st.scope s).context
      match hostMemberType? ctx typeName member with
      | some hostType => .ofHostType hostType
      | none =>
        match (st.classBehind? base).bind (fun start => classAttribute? ctx st start member) with
        | some value => value
        | none => qualified ctx base typeName member
  | _, _ => .unknown

/-! ### Calls and expressions -/

/-- What is known about the result of a call. -/
def resultOf : Value → Value
  | .held (.static name) => .held (.instanceOf name none)
  | .held (.function fn) =>
    match fn.returns with
    | none => .unknown
    | some typeName => if typeName = "" then .unknown else .held (.instanceOf typeName fn.scope)
  | callee => callee

/-- What is known about an expression in a scope; nothing at all if it cannot be read. -/
def infer (st : Store) (s : ScopeId) : Expr → Option Value
  | .name none => some .unknown
  | .name (some name) => some (st.find s (some name))
  | .integer => some (.ofHostType Host.integralType)
  | .float => some (.ofHostType Host.floatingType)
  | .text => some (.ofHostType Host.textType)
  | .member object label => (st.infer s object).map (st.memberOf s · label)
  | .call callee => (st.infer s callee).map resultOf
  | .binary left right =>
    if left.isFloat || right.isFloat then some (.ofHostType Host.floatingType)
    else if left.isInteger && right.isInteger then some (.ofHostType Host.integralType)
    else do
      let value ← st.infer s left
      if value.isUnknown then st.infer s right else return value
  | .unary operand => st.infer s operand
  | .paren inner => st.infer s inner
  | .yield inner => st.infer s inner
  | .sequence _ | .splat | .other => some .unknown
  | .fault => none

end Store

end ScriptScope
