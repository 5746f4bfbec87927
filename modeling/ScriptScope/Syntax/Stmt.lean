import ScriptScope.Syntax.Expr
import ScriptScope.Syntax.Pattern

/-!
# Statements

A `Stmt` keeps of a statement what it binds: imports, assignments, definitions, and the blocks of
control statements, which belong to the enclosing scope. `Stmt.ofNode` reads a statement off its
syntax node; whatever cannot be read because a node is unreadable is marked where the reading would
fail, since the parts read before it still take effect.
-/

namespace ScriptScope

/-- One name of an import statement. -/
inductive ImportItem where
  /-- `import name`, or `from … import name`. -/
  | plain (name : Label)
  /-- `… name as newName`. -/
  | renamed (name newName : Label)
  | fault
  deriving Repr

/-- An assignment `t₁ = … = tₙ = value`. An annotated name without a value has none. -/
inductive Assignment where
  | mk (targets : List Pattern) (value : Option Expr)
  | fault
  deriving Repr

mutual

/-- A statement, as far as it binds names. -/
inductive Stmt where
  | importNames (items : List ImportItem)
  /-- `from source import …`; the source is absent if it cannot be read, and its label is absent if
  it has no text. -/
  | importFrom (source : Option Label) (wildcard : Bool) (items : List ImportItem)
  /-- The assignments of an expression statement. -/
  | assign (items : List Assignment)
  /-- A function; the parameters are absent if they cannot be read. -/
  | function (name : String) (params : Option (List Label)) (body : List Stmt)
  | classDef (name : String) (bases : List Expr) (body : List Stmt)
  | decorated (definition : Stmt)
  | control (parts : Control)
  | ret (value : Expr)
  /-- A statement that binds nothing. -/
  | other
  /-- A statement that cannot be read. -/
  | fault

/-- A control statement or one of its clauses: the names it binds itself (absent if they cannot be
read), and its parts. -/
inductive Control where
  | mk (targets : Option (List Label)) (parts : List Part)

/-- A part of a control statement. -/
inductive Part where
  | block (body : List Stmt)
  | clause (inner : Control)

end

instance : Inhabited Stmt := ⟨.other⟩

/-! ### Reading the parts of a statement -/

/-- The label of the first child in a role. -/
def Node.labelIn (n : Node) (role : Role) : Label :=
  (n.child? role).bind Node.label

namespace ImportItem

/-- Reads one name of an import statement. -/
def ofNode (n : Node) : ImportItem :=
  if n.kind = .aliasedImport then
    if n.unreadable then fault else renamed (n.labelIn .name) (n.labelIn .newName)
  else plain n.label

end ImportItem

/-- The identifier that a parameter binds, looking through one star. -/
def Node.parameterLabel? (n : Node) : Option Label :=
  let inner := if n.kind.isSplat then n.namedChildren.head? else some n
  match inner with
  | some i => if i.kind = .identifier then some i.label else none
  | none => none

/-- The label of a parameter: absent outside if the parameter cannot be read, absent inside if it
binds no name. -/
def Node.parameter (n : Node) : Option (Option Label) :=
  match n.kind with
  | .identifier => some (some n.label)
  | .defaultParameter | .typedDefaultParameter =>
    if n.unreadable then none else some ((n.child? .name).bind Node.parameterLabel?)
  | .typedParameter | .listSplatPattern | .dictionarySplatPattern =>
    some (n.namedChildren.head?.bind Node.parameterLabel?)
  | _ => some none

/-- The labels of the parameters of a function, if all can be read. -/
def Node.parameterLabels (n : Node) : Option (List Label) :=
  (n.namedChildren.mapM Node.parameter).map (List.filterMap id)

/-- The base expressions of a class, without keyword arguments, comments and starred bases. -/
def Node.baseExprs (n : Node) : List Expr :=
  (n.namedChildren.filter
    (fun b => b.kind != .keywordArgument && b.kind != .comment && !b.kind.isSplat)).map Expr.ofNode

/-- The targets of a loop, absent if they cannot be read; other control statements have none. -/
def Node.loopTargets (n : Node) : Option (List Label) :=
  if n.kind = .forStatement then
    if n.unreadable then none
    else some (((n.child? .left).map (Pattern.names ∘ Pattern.ofNode)).getD [])
  else some []

namespace Assignment

/-- Adds a target in front of an assignment. -/
def chain (target : Pattern) : Assignment → Assignment
  | mk targets value => mk (target :: targets) value
  | fault => fault

mutual

/-- Reads an assignment, following the assignments nested on its right. -/
def ofNode : Node → Assignment
  | ⟨_, _, _, _, _, _, _, unreadable, children⟩ =>
    if unreadable then fault
    else ofRight
      (((children.find? (fun n => n.role == some .left)).map Pattern.ofNode).getD .other) children

/-- Reads the right side of an assignment among its parts. -/
def ofRight (target : Pattern) : List Node → Assignment
  | [] => mk [target] none
  | n :: rest =>
    if n.role == some .right then
      if n.kind = .assignment then (ofNode n).chain target else mk [target] (some (Expr.ofNode n))
    else ofRight target rest

end

end Assignment

/-! ### Reading a statement -/

namespace Stmt

mutual

/-- Reads a statement off its syntax node. -/
def ofNode : Node → Stmt
  | ⟨kind, nodeText, role, row, named, missing, flagged, unreadable, children⟩ =>
    let node : Node := ⟨kind, nodeText, role, row, named, missing, flagged, unreadable, children⟩
    match kind with
    | .importStatement => importNames ((node.childrenIn .name).map ImportItem.ofNode)
    | .importFromStatement =>
      importFrom (if unreadable then none else some (node.labelIn .moduleName))
        (children.any (fun n => n.kind == .wildcardImport))
        ((node.childrenIn .name).map ImportItem.ofNode)
    | .expressionStatement =>
      assign ((node.namedChildren.filter (fun n => n.kind == .assignment)).map Assignment.ofNode)
    | .functionDefinition =>
      if unreadable then fault
      else match node.labelIn .name with
        | none => other
        | some name =>
          function name (((node.child? .parameters).map Node.parameterLabels).getD (some []))
            (bodyOf children)
    | .classDefinition =>
      if unreadable then fault
      else match node.labelIn .name with
        | none => other
        | some name =>
          classDef name (((node.child? .superclasses).map Node.baseExprs).getD []) (bodyOf children)
    | .decoratedDefinition => if unreadable then fault else definitionOf children
    | .returnStatement => ret ((node.namedChildren.head?.map Expr.ofNode).getD .other)
    | .ifStatement | .elifClause | .elseClause | .forStatement | .whileStatement | .tryStatement
    | .exceptClause | .exceptGroupClause | .finallyClause | .withStatement =>
      control (.mk node.loopTargets (partsOf children))
    | _ => other

/-- Reads the statements of a module or a block: its named children but comments. -/
def ofEach : List Node → List Stmt
  | [] => []
  | n :: rest => if n.named && n.kind != .comment then ofNode n :: ofEach rest else ofEach rest

/-- Reads the body among the parts of a definition. -/
def bodyOf : List Node → List Stmt
  | [] => []
  | ⟨_, _, role, _, _, _, _, _, children⟩ :: rest =>
    if role == some .body then ofEach children else bodyOf rest

/-- Reads the definition among the parts of a decorated one. -/
def definitionOf : List Node → Stmt
  | [] => other
  | n :: rest => if n.role == some .definition then decorated (ofNode n) else definitionOf rest

/-- Reads the blocks and clauses of a control statement. -/
def partsOf : List Node → List Part
  | [] => []
  | ⟨kind, nodeText, role, row, named, missing, flagged, unreadable, children⟩ :: rest =>
    let node : Node := ⟨kind, nodeText, role, row, named, missing, flagged, unreadable, children⟩
    if named && kind == .block then .block (ofEach children) :: partsOf rest
    else if named && kind.isControl then
      .clause (.mk node.loopTargets (partsOf children)) :: partsOf rest
    else partsOf rest

end

/-- The statements of a module or a block. -/
def ofModule (root : Node) : List Stmt :=
  ofEach root.children

end Stmt

end ScriptScope
