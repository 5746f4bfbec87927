import ScriptScope.Proofs.Lists
import ScriptScope.Syntax.Stmt

/-!
# Readable syntax

Reading a statement off a syntax tree leaves a mark wherever a node cannot be read.  A statement
without such marks is readable.  A tree in which every node can be read gives readable statements
only: `Stmt.allReadable_ofModule`.
-/

namespace ScriptScope

/-! ### Without marks -/

mutual

/-- No part of an expression is unreadable. -/
def Expr.readable : Expr → Bool
  | .fault => false
  | .member object _ => object.readable
  | .call inner | .unary inner | .paren inner | .yield inner => inner.readable
  | .binary left right => left.readable && right.readable
  | .sequence items => Expr.allReadable items
  | .name _ | .integer | .float | .text | .splat | .other => true

/-- No part of any of the expressions is unreadable. -/
def Expr.allReadable : List Expr → Bool
  | [] => true
  | e :: rest => e.readable && Expr.allReadable rest

end

mutual

/-- No part of a target is unreadable. -/
def Pattern.readable : Pattern → Bool
  | .fault => false
  | .group items | .splat items => Pattern.allReadable items
  | .name _ | .member _ _ | .other => true

/-- No part of any of the targets is unreadable. -/
def Pattern.allReadable : List Pattern → Bool
  | [] => true
  | p :: rest => p.readable && Pattern.allReadable rest

end

/-- An item of an import statement can be read. -/
def ImportItem.readable : ImportItem → Bool
  | .fault => false
  | .plain _ | .renamed _ _ => true

/-- No part of an assignment is unreadable. -/
def Assignment.readable : Assignment → Bool
  | .fault => false
  | .mk targets value => Pattern.allReadable targets && value.all Expr.readable

mutual

/-- No part of a statement is unreadable. -/
def Stmt.readable : Stmt → Bool
  | .importNames items => items.all ImportItem.readable
  | .importFrom source _ items => source.isSome && items.all ImportItem.readable
  | .assign items => items.all Assignment.readable
  | .function _ params body => params.isSome && Stmt.allReadable body
  | .classDef _ bases body => Expr.allReadable bases && Stmt.allReadable body
  | .decorated definition => definition.readable
  | .control parts => parts.readable
  | .ret value => value.readable
  | .other => true
  | .fault => false

/-- No part of any of the statements is unreadable. -/
def Stmt.allReadable : List Stmt → Bool
  | [] => true
  | stmt :: rest => stmt.readable && Stmt.allReadable rest

/-- No part of a control statement is unreadable. -/
def Control.readable : Control → Bool
  | .mk targets parts => targets.isSome && Part.allReadable parts

/-- No part of a control statement's parts is unreadable. -/
def Part.allReadable : List Part → Bool
  | [] => true
  | .block body :: rest => Stmt.allReadable body && Part.allReadable rest
  | .clause inner :: rest => inner.readable && Part.allReadable rest

end

theorem Expr.readable_of_mem {items : List Expr} (h : Expr.allReadable items = true) {e : Expr}
    (he : e ∈ items) : e.readable = true := by
  induction items with
  | nil => simp at he
  | cons x rest ih =>
    rw [Expr.allReadable, Bool.and_eq_true] at h
    rcases List.mem_cons.mp he with rfl | he
    · exact h.1
    · exact ih h.2 he

theorem Stmt.readable_of_mem {body : List Stmt} (h : Stmt.allReadable body = true) {stmt : Stmt}
    (hmem : stmt ∈ body) : stmt.readable = true := by
  induction body with
  | nil => simp at hmem
  | cons x rest ih =>
    rw [Stmt.allReadable, Bool.and_eq_true] at h
    rcases List.mem_cons.mp hmem with rfl | hmem
    · exact h.1
    · exact ih h.2 hmem

/-! ### Reading a tree without unreadable nodes -/

mutual

/-- Every node of a tree can be read. -/
def Node.readable : Node → Bool
  | ⟨_, _, _, _, _, _, _, unreadable, children⟩ => !unreadable && Node.allReadable children

/-- Every node of the trees can be read. -/
def Node.allReadable : List Node → Bool
  | [] => true
  | n :: rest => n.readable && Node.allReadable rest

end

theorem Node.readable_of_mem {nodes : List Node} (h : Node.allReadable nodes = true) {n : Node}
    (hn : n ∈ nodes) : n.readable = true := by
  induction nodes with
  | nil => simp at hn
  | cons x rest ih =>
    rw [Node.allReadable, Bool.and_eq_true] at h
    rcases List.mem_cons.mp hn with rfl | hn
    · exact h.1
    · exact ih h.2 hn

/-- A readable node can be asked for its children, which are readable. -/
theorem Node.readable_iff (n : Node) :
    n.readable = true ↔ n.unreadable = false ∧ Node.allReadable n.children = true := by
  cases n
  rw [Node.readable, Bool.and_eq_true, Bool.not_eq_true']

mutual

theorem Expr.readable_ofNode (n : Node) (h : n.readable = true) :
    (Expr.ofNode n).readable = true := by
  match n with
  | ⟨kind, nodeText, role, row, named, missing, flagged, unreadable, children⟩ =>
    rw [Node.readable, Bool.and_eq_true, Bool.not_eq_true'] at h
    obtain ⟨rfl, h⟩ := h
    have hrole := fun role => Expr.readable_ofRole role children h
    have hfirst := Expr.readable_ofFirst children h
    have helements := Expr.allReadable_ofElements children h
    unfold Expr.ofNode
    split <;> simp only [Expr.readable, Bool.false_eq_true, ↓reduceIte, hrole, hfirst, helements,
      Bool.and_self]

theorem Expr.readable_ofRole (role : Role) (nodes : List Node) (h : Node.allReadable nodes = true) :
    (Expr.ofRole role nodes).readable = true := by
  match nodes with
  | [] => rfl
  | n :: rest =>
    rw [Node.allReadable, Bool.and_eq_true] at h
    rw [Expr.ofRole]
    split
    · exact Expr.readable_ofNode n h.1
    · exact Expr.readable_ofRole role rest h.2

theorem Expr.readable_ofFirst (nodes : List Node) (h : Node.allReadable nodes = true) :
    (Expr.ofFirst nodes).readable = true := by
  match nodes with
  | [] => rfl
  | n :: rest =>
    rw [Node.allReadable, Bool.and_eq_true] at h
    rw [Expr.ofFirst]
    split
    · exact Expr.readable_ofNode n h.1
    · exact Expr.readable_ofFirst rest h.2

theorem Expr.allReadable_ofElements (nodes : List Node) (h : Node.allReadable nodes = true) :
    Expr.allReadable (Expr.ofElements nodes) = true := by
  match nodes with
  | [] => rfl
  | n :: rest =>
    rw [Node.allReadable, Bool.and_eq_true] at h
    rw [Expr.ofElements]
    split
    · rw [Expr.allReadable, Bool.and_eq_true]
      exact ⟨Expr.readable_ofNode n h.1, Expr.allReadable_ofElements rest h.2⟩
    · exact Expr.allReadable_ofElements rest h.2

end

theorem Pattern.readable_access {owner : Pattern} (h : owner.readable = true) (label : Label) :
    (owner.access label).readable = true := by
  cases owner with
  | fault => simp [Pattern.readable] at h
  | _ => rfl

mutual

theorem Pattern.readable_ownerOfNode (n : Node) (h : n.readable = true) :
    (Pattern.ownerOfNode n).readable = true := by
  match n with
  | ⟨kind, nodeText, role, row, named, missing, flagged, unreadable, children⟩ =>
    rw [Node.readable, Bool.and_eq_true, Bool.not_eq_true'] at h
    obtain ⟨rfl, h⟩ := h
    unfold Pattern.ownerOfNode
    split
    · rfl
    · rw [ite_cond_eq_false _ _ (eq_false Bool.false_ne_true)]
      exact Pattern.readable_access (Pattern.readable_ownerOfRole children h) _
    · rfl

theorem Pattern.readable_ownerOfRole (nodes : List Node) (h : Node.allReadable nodes = true) :
    (Pattern.ownerOfRole nodes).readable = true := by
  match nodes with
  | [] => rfl
  | n :: rest =>
    rw [Node.allReadable, Bool.and_eq_true] at h
    rw [Pattern.ownerOfRole]
    split
    · exact Pattern.readable_ownerOfNode n h.1
    · exact Pattern.readable_ownerOfRole rest h.2

end

mutual

theorem Pattern.readable_ofNode (n : Node) (h : n.readable = true) :
    (Pattern.ofNode n).readable = true := by
  match n with
  | ⟨kind, nodeText, role, row, named, missing, flagged, unreadable, children⟩ =>
    have howner := Pattern.readable_ownerOfNode _ h
    rw [Node.readable, Bool.and_eq_true, Bool.not_eq_true'] at h
    have helements := Pattern.allReadable_ofElements children h.2
    unfold Pattern.ofNode
    split <;> first | rfl | exact helements | exact howner

theorem Pattern.allReadable_ofElements (nodes : List Node) (h : Node.allReadable nodes = true) :
    Pattern.allReadable (Pattern.ofElements nodes) = true := by
  match nodes with
  | [] => rfl
  | n :: rest =>
    rw [Node.allReadable, Bool.and_eq_true] at h
    rw [Pattern.ofElements]
    split
    · rw [Pattern.allReadable, Bool.and_eq_true]
      exact ⟨Pattern.readable_ofNode n h.1, Pattern.allReadable_ofElements rest h.2⟩
    · exact Pattern.allReadable_ofElements rest h.2

end

theorem ImportItem.readable_ofNode (n : Node) (h : n.readable = true) :
    (ImportItem.ofNode n).readable = true := by
  unfold ImportItem.ofNode
  rw [((Node.readable_iff n).mp h).1]
  split <;> rfl

theorem Assignment.readable_chain {target : Pattern} {item : Assignment}
    (htarget : target.readable = true) (hitem : item.readable = true) :
    (item.chain target).readable = true := by
  cases item with
  | fault => exact hitem
  | mk targets value =>
    rw [Assignment.readable, Bool.and_eq_true] at hitem
    rw [Assignment.chain, Assignment.readable, Pattern.allReadable, htarget, hitem.1, hitem.2]
    rfl

/-- The target that is read off the left side of an assignment. -/
theorem Pattern.readable_ofFound {nodes : List Node} (h : Node.allReadable nodes = true)
    (p : Node → Bool) : (((nodes.find? p).map Pattern.ofNode).getD .other).readable = true := by
  cases hfound : nodes.find? p with
  | none => rfl
  | some n =>
    exact Pattern.readable_ofNode n
      (Node.readable_of_mem h (List.mem_of_find?_eq_some hfound))

mutual

theorem Assignment.readable_ofNode (n : Node) (h : n.readable = true) :
    (Assignment.ofNode n).readable = true := by
  match n with
  | ⟨kind, nodeText, role, row, named, missing, flagged, unreadable, children⟩ =>
    rw [Node.readable, Bool.and_eq_true, Bool.not_eq_true'] at h
    obtain ⟨rfl, h⟩ := h
    rw [Assignment.ofNode, ite_cond_eq_false _ _ (eq_false Bool.false_ne_true)]
    exact Assignment.readable_ofRight _ (Pattern.readable_ofFound h _) children h

theorem Assignment.readable_ofRight (target : Pattern) (htarget : target.readable = true)
    (nodes : List Node) (h : Node.allReadable nodes = true) :
    (Assignment.ofRight target nodes).readable = true := by
  match nodes with
  | [] =>
    rw [Assignment.ofRight, Assignment.readable, Pattern.allReadable, htarget]
    rfl
  | n :: rest =>
    rw [Node.allReadable, Bool.and_eq_true] at h
    rw [Assignment.ofRight]
    split
    · split
      · exact Assignment.readable_chain htarget (Assignment.readable_ofNode n h.1)
      · rw [Assignment.readable, Pattern.allReadable, htarget, Option.all_some,
          Expr.readable_ofNode n h.1]
        rfl
    · exact Assignment.readable_ofRight target htarget rest h.2

end

/-! ### Statements read off a tree -/

/-- What stands in a role of a readable node is readable. -/
theorem Node.readable_of_child? {n child : Node} {role : Role} (h : n.readable = true)
    (hchild : n.child? role = some child) : child.readable = true :=
  Node.readable_of_mem ((Node.readable_iff n).mp h).2 (List.mem_of_find?_eq_some hchild)

theorem Node.readable_of_mem_namedChildren {n child : Node} (h : n.readable = true)
    (hchild : child ∈ n.namedChildren) : child.readable = true :=
  Node.readable_of_mem ((Node.readable_iff n).mp h).2 (List.mem_of_mem_filter hchild)

/-- The parameters of a readable function can be told. -/
theorem Node.isSome_parameterLabels {n : Node} (h : n.readable = true) :
    n.parameterLabels.isSome = true := by
  have hparam : ∀ param ∈ n.namedChildren, ∃ label, param.parameter = some label := by
    intro param hmem
    have hread := ((Node.readable_iff param).mp (Node.readable_of_mem_namedChildren h hmem)).1
    unfold Node.parameter
    rw [hread]
    split <;> exact ⟨_, rfl⟩
  obtain ⟨labels, hlabels⟩ := exists_mapM_eq_some hparam
  rw [Node.parameterLabels, hlabels]
  rfl

theorem Expr.allReadable_of_forall {items : List Expr} (h : ∀ e ∈ items, e.readable = true) :
    Expr.allReadable items = true := by
  induction items with
  | nil => rfl
  | cons e rest ih =>
    rw [List.forall_mem_cons] at h
    rw [Expr.allReadable, h.1, ih h.2]
    rfl

/-- The superclasses of a readable class are readable. -/
theorem Node.allReadable_baseExprs {n : Node} (h : n.readable = true) :
    Expr.allReadable n.baseExprs = true := by
  refine Expr.allReadable_of_forall fun e he => ?_
  obtain ⟨base, hbase, rfl⟩ := List.mem_map.mp he
  exact Expr.readable_ofNode base
    (Node.readable_of_mem_namedChildren h (List.mem_of_mem_filter hbase))

theorem Node.isSome_loopTargets {n : Node} (h : n.readable = true) :
    n.loopTargets.isSome = true := by
  unfold Node.loopTargets
  rw [((Node.readable_iff n).mp h).1]
  split <;> rfl

mutual

/-- A tree in which every node can be read gives a readable statement. -/
theorem Stmt.readable_ofNode (n : Node) (h : n.readable = true) :
    (Stmt.ofNode n).readable = true := by
  match n with
  | ⟨kind, nodeText, role, row, named, missing, flagged, unreadable, children⟩ =>
    have htree := h
    have hnames : ∀ r, ∀ item ∈ (Node.childrenIn ⟨kind, nodeText, role, row, named, missing,
        flagged, unreadable, children⟩ r).map ImportItem.ofNode, item.readable = true := by
      intro r item hitem
      obtain ⟨child, hchild, rfl⟩ := List.mem_map.mp hitem
      exact ImportItem.readable_ofNode child
        (Node.readable_of_mem ((Node.readable_iff _).mp htree).2 (List.mem_of_mem_filter hchild))
    rw [Node.readable, Bool.and_eq_true, Bool.not_eq_true'] at h
    obtain ⟨rfl, h⟩ := h
    have hbody := Stmt.allReadable_bodyOf children h
    -- on the kind of the node
    unfold Stmt.ofNode
    dsimp only
    split
    -- `import …`
    · rw [Stmt.readable, List.all_eq_true]
      exact hnames .name
    -- `from … import …`
    · rw [Stmt.readable, Bool.and_eq_true, List.all_eq_true]
      exact ⟨rfl, hnames .name⟩
    -- an expression statement
    · rw [Stmt.readable, List.all_eq_true]
      intro item hitem
      obtain ⟨child, hchild, rfl⟩ := List.mem_map.mp hitem
      exact Assignment.readable_ofNode child
        (Node.readable_of_mem_namedChildren htree (List.mem_of_mem_filter hchild))
    -- a function
    · rw [ite_cond_eq_false _ _ (eq_false Bool.false_ne_true)]
      split
      · rfl
      · rw [Stmt.readable, Bool.and_eq_true]
        refine ⟨?_, hbody⟩
        cases hparams : Node.child? _ .parameters with
        | none => rfl
        | some params => exact Node.isSome_parameterLabels (Node.readable_of_child? htree hparams)
    -- a class
    · rw [ite_cond_eq_false _ _ (eq_false Bool.false_ne_true)]
      split
      · rfl
      · rw [Stmt.readable, Bool.and_eq_true]
        refine ⟨?_, hbody⟩
        cases hbases : Node.child? _ .superclasses with
        | none => rfl
        | some bases => exact Node.allReadable_baseExprs (Node.readable_of_child? htree hbases)
    -- a decorated definition
    · rw [ite_cond_eq_false _ _ (eq_false Bool.false_ne_true)]
      exact Stmt.readable_definitionOf children h
    -- `return …`
    · rw [Stmt.readable]
      cases hvalue : (Node.namedChildren _).head? with
      | none => rfl
      | some value =>
        exact Expr.readable_ofNode value
          (Node.readable_of_mem_namedChildren htree (List.mem_of_head? hvalue))
    all_goals first
      | rfl
      | -- a control statement
        rw [Stmt.readable, Control.readable, Bool.and_eq_true]
        exact ⟨Node.isSome_loopTargets htree, Part.allReadable_partsOf children h⟩

theorem Stmt.allReadable_ofEach (nodes : List Node) (h : Node.allReadable nodes = true) :
    Stmt.allReadable (Stmt.ofEach nodes) = true := by
  match nodes with
  | [] => rfl
  | n :: rest =>
    rw [Node.allReadable, Bool.and_eq_true] at h
    rw [Stmt.ofEach]
    split
    · rw [Stmt.allReadable, Bool.and_eq_true]
      exact ⟨Stmt.readable_ofNode n h.1, Stmt.allReadable_ofEach rest h.2⟩
    · exact Stmt.allReadable_ofEach rest h.2

theorem Stmt.allReadable_bodyOf (nodes : List Node) (h : Node.allReadable nodes = true) :
    Stmt.allReadable (Stmt.bodyOf nodes) = true := by
  match nodes with
  | [] => rfl
  | ⟨kind, nodeText, role, row, named, missing, flagged, unreadable, children⟩ :: rest =>
    rw [Node.allReadable, Node.readable, Bool.and_eq_true, Bool.and_eq_true] at h
    rw [Stmt.bodyOf]
    split
    · exact Stmt.allReadable_ofEach children h.1.2
    · exact Stmt.allReadable_bodyOf rest h.2

theorem Stmt.readable_definitionOf (nodes : List Node) (h : Node.allReadable nodes = true) :
    (Stmt.definitionOf nodes).readable = true := by
  match nodes with
  | [] => rfl
  | n :: rest =>
    rw [Node.allReadable, Bool.and_eq_true] at h
    rw [Stmt.definitionOf]
    split
    · exact Stmt.readable_ofNode n h.1
    · exact Stmt.readable_definitionOf rest h.2

theorem Part.allReadable_partsOf (nodes : List Node) (h : Node.allReadable nodes = true) :
    Part.allReadable (Stmt.partsOf nodes) = true := by
  match nodes with
  | [] => rfl
  | ⟨kind, nodeText, role, row, named, missing, flagged, unreadable, children⟩ :: rest =>
    rw [Node.allReadable, Bool.and_eq_true] at h
    have htree := h.1
    rw [Node.readable, Bool.and_eq_true] at htree
    have hrest := Part.allReadable_partsOf rest h.2
    rw [Stmt.partsOf]
    split
    · rw [Part.allReadable, Bool.and_eq_true]
      exact ⟨Stmt.allReadable_ofEach children htree.2, hrest⟩
    · split
      · rw [Part.allReadable, Control.readable, Bool.and_eq_true, Bool.and_eq_true]
        exact ⟨⟨Node.isSome_loopTargets h.1, Part.allReadable_partsOf children htree.2⟩, hrest⟩
      · exact hrest

end

/-- A module in which every node can be read has readable statements. -/
theorem Stmt.allReadable_ofModule {root : Node} (h : root.readable = true) :
    Stmt.allReadable (Stmt.ofModule root) = true :=
  Stmt.allReadable_ofEach root.children ((Node.readable_iff root).mp h).2

end ScriptScope
