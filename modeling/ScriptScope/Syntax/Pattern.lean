import ScriptScope.Syntax.Node

/-!
# Assignment targets

A `Pattern` is the left side of an assignment or the target of a loop: a name, a group that takes a
sequence apart, a member of something (`a.b.c`), or a target that binds no name of the scope.
`Pattern.names` lists the names that a target binds, in order.
-/

namespace ScriptScope

/-- A target of an assignment or of a loop. -/
inductive Pattern where
  | name (label : Label)
  /-- A group of targets, without comments. -/
  | group (items : List Pattern)
  /-- A starred target. -/
  | splat (items : List Pattern)
  /-- A member reached from a name: `root.p₁.….pₙ`. -/
  | member (root : Label) (path : List Label)
  /-- A target that binds nothing. -/
  | other
  /-- A target that cannot be read. -/
  | fault
  deriving Repr

namespace Pattern

instance : Inhabited Pattern := ⟨other⟩

/-- Whether a target is starred. -/
def isSplat : Pattern → Bool
  | splat _ => true
  | _ => false

mutual

/-- The names that a target binds, from left to right. -/
def names : Pattern → List Label
  | name label => [label]
  | group items | splat items => namesOfEach items
  | member _ _ | other | fault => []

/-- The names that a list of targets binds. -/
def namesOfEach : List Pattern → List Label
  | [] => []
  | p :: rest => p.names ++ namesOfEach rest

end

/-- Appends a member to the path of a target. -/
def access (owner : Pattern) (label : Label) : Pattern :=
  match owner with
  | name root => member root [label]
  | member root path => member root (path ++ [label])
  | fault => fault
  | _ => other

mutual

/-- Reads a target of a member access: the name it starts from and the members along it. -/
def ownerOfNode : Node → Pattern
  | ⟨kind, nodeText, _, _, _, _, _, unreadable, children⟩ =>
    match kind with
    | .identifier => name (if nodeText = "" then none else some nodeText)
    | .memberAccess =>
      if unreadable then fault
      else (ownerOfRole children).access
        ((children.find? (fun n => n.role == some .member)).bind Node.label)
    | _ => other

/-- Reads the owner among the parts of a member access. -/
def ownerOfRole : List Node → Pattern
  | [] => other
  | n :: rest => if n.role == some .object then ownerOfNode n else ownerOfRole rest

end

mutual

/-- Reads a target off its syntax node. -/
def ofNode : Node → Pattern
  | ⟨kind, nodeText, role, row, named, missing, flagged, unreadable, children⟩ =>
    match kind with
    | .identifier => name (if nodeText = "" then none else some nodeText)
    | .patternList | .tuplePattern | .listPattern => group (ofElements children)
    | .listSplatPattern | .dictionarySplatPattern | .listSplat => splat (ofElements children)
    | .memberAccess =>
      ownerOfNode ⟨kind, nodeText, role, row, named, missing, flagged, unreadable, children⟩
    | _ => other

/-- Reads all named nodes but comments. -/
def ofElements : List Node → List Pattern
  | [] => []
  | n :: rest =>
    if n.named && n.kind != .comment then ofNode n :: ofElements rest else ofElements rest

end

end Pattern

end ScriptScope
