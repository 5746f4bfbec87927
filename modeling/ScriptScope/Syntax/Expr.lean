import ScriptScope.Syntax.Node

/-!
# Expressions

An `Expr` keeps of an expression what its type depends on: names, number and text literals, member
access, calls, operators, and, for sequences written out, their elements. All other expressions are
alike (`Expr.other`), and so is an operand that is missing from a damaged tree. An expression that
cannot be read because a node on the way is unreadable is `Expr.fault`.
-/

namespace ScriptScope

/-- An expression, as far as its type depends on it. -/
inductive Expr where
  /-- A name; the label is absent for an identifier without text. -/
  | name (label : Label)
  | integer
  | float
  | text
  /-- `object.member`. -/
  | member (object : Expr) (label : Label)
  | call (callee : Expr)
  | binary (left right : Expr)
  | unary (operand : Expr)
  | paren (inner : Expr)
  | yield (inner : Expr)
  /-- A list, a tuple or a bare list of expressions, without comments. -/
  | sequence (items : List Expr)
  /-- A starred element. -/
  | splat
  /-- An expression that nothing is known about. -/
  | other
  /-- An expression that cannot be read. -/
  | fault
  deriving Repr

namespace Expr

instance : Inhabited Expr := ⟨other⟩

/-- Whether an expression is a starred element. -/
def isSplat : Expr → Bool
  | splat => true
  | _ => false

/-- Whether an expression is a number literal. -/
def isNumber : Expr → Bool
  | integer | float => true
  | _ => false

/-- Whether an expression is a floating-point literal. -/
def isFloat : Expr → Bool
  | float => true
  | _ => false

/-- Whether an expression is an integer literal. -/
def isInteger : Expr → Bool
  | integer => true
  | _ => false

/-- The label of the first node in a role. -/
def labelIn (role : Role) (nodes : List Node) : Label :=
  (nodes.find? (fun n => n.role == some role)).bind Node.label

mutual

/-- Reads an expression off its syntax node. -/
def ofNode : Node → Expr
  | ⟨kind, nodeText, _, _, _, _, _, unreadable, children⟩ =>
    match kind with
    | .identifier => name (if nodeText = "" then none else some nodeText)
    | .integer => integer
    | .float => float
    | .string | .concatenatedString => text
    | .memberAccess =>
      if unreadable then fault else member (ofRole .object children) (labelIn .member children)
    | .call => if unreadable then fault else call (ofRole .function children)
    | .binaryOperator =>
      if unreadable then fault else binary (ofRole .left children) (ofRole .right children)
    | .unaryOperator => if unreadable then fault else unary (ofRole .argument children)
    | .parenthesized => paren (ofFirst children)
    | .yield => yield (ofFirst children)
    | .expressionList | .tuple | .list => sequence (ofElements children)
    | .listSplatPattern | .dictionarySplatPattern | .listSplat => splat
    | _ => other

/-- Reads the first node in a role. -/
def ofRole (role : Role) : List Node → Expr
  | [] => other
  | n :: rest => if n.role == some role then ofNode n else ofRole role rest

/-- Reads the first named node that is not a comment. -/
def ofFirst : List Node → Expr
  | [] => other
  | n :: rest => if n.named && n.kind != .comment then ofNode n else ofFirst rest

/-- Reads all named nodes but comments. -/
def ofElements : List Node → List Expr
  | [] => []
  | n :: rest =>
    if n.named && n.kind != .comment then ofNode n :: ofElements rest else ofElements rest

end

end Expr

end ScriptScope
