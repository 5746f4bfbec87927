import ScriptScope.Syntax.Script

/-!
# The first error of a tree

The search for the first error skips every child that is not marked as holding one, and goes on with
the next child where a mark promises too much.  `preorder` lists all nodes of a tree, punctuation and
keywords included, each before its children; the search gives the line of the first error on this
list.  Skipping loses nothing since marks are handed up: below a node without a mark no node has one,
so that the search would come back from it with nothing.

Main statement: `Script.parse_reports_firstError`.
-/

namespace ScriptScope

namespace Node

/-! ### The nodes of a tree -/

mutual

/-- All nodes of a tree, each before its children. -/
def preorder : Node → List Node
  | ⟨kind, text, role, row, named, missing, flagged, unreadable, children⟩ =>
    ⟨kind, text, role, row, named, missing, flagged, unreadable, children⟩ :: preorderIn children

/-- All nodes of the trees of a list, tree by tree. -/
def preorderIn : List Node → List Node
  | [] => []
  | n :: rest => n.preorder ++ preorderIn rest

end

/-- A node of the tree is an error, and no node before it is one. -/
def IsFirstError (root n : Node) : Prop :=
  ∃ before after, root.preorder = before ++ n :: after ∧ n.isError = true ∧
    ∀ m ∈ before, m.isError = false

/-- A report on a tree gives the line of its first error, and no line exactly if no node is
one. -/
structure ReportsFirstError (root : Node) (line : Option Nat) : Prop where
  found : ∀ l, line = some l ↔ ∃ n, root.IsFirstError n ∧ l = n.row + 1
  absent : line = none ↔ ∀ n ∈ root.preorder, n.isError = false

/-- The mark of a node is set if the node is an error, and if the mark of a child is. -/
def HandsMarkUp (n : Node) : Prop :=
  n.isError = true ∨ (∃ c ∈ n.children, c.flagged = true) → n.flagged = true

instance (n : Node) : Decidable n.HandsMarkUp :=
  inferInstanceAs (Decidable (_ → _))

theorem preorder_eq_cons (n : Node) : n.preorder = n :: preorderIn n.children := by
  cases n
  rfl

theorem mem_preorderIn_of_mem {nodes : List Node} {n : Node} (h : n ∈ nodes) :
    n ∈ preorderIn nodes := by
  induction nodes with
  | nil => simp at h
  | cons x rest ih =>
    rw [preorderIn, List.mem_append]
    rcases List.mem_cons.mp h with rfl | h
    · left
      rw [preorder_eq_cons]
      exact List.mem_cons_self
    · exact .inr (ih h)

theorem isFirstError_iff_find? {root n : Node} :
    root.IsFirstError n ↔ root.preorder.find? isError = some n := by
  rw [List.find?_eq_some_iff_append]
  constructor
  · rintro ⟨before, after, hsplit, hn, hbefore⟩
    exact ⟨hn, before, after, hsplit, fun m hm => by rw [hbefore m hm, Bool.not_false]⟩
  · rintro ⟨hn, before, after, hsplit, hbefore⟩
    exact ⟨before, after, hsplit, hn, fun m hm => by simpa using hbefore m hm⟩

/-! ### Marks -/

theorem anyHasError_eq_any (nodes : List Node) : anyHasError nodes = nodes.any hasError := by
  induction nodes with
  | nil => rfl
  | cons n rest ih => rw [anyHasError, List.any_cons, ih]

theorem hasError_eq_or (n : Node) :
    n.hasError = (n.isError || n.flagged || anyHasError n.children) := by
  cases n
  rfl

theorem isError_eq_false {n : Node} (h : n.hasError = false) : n.isError = false := by
  rw [hasError_eq_or, Bool.or_eq_false_iff, Bool.or_eq_false_iff] at h
  exact h.1.1

theorem anyHasError_children_eq_false {n : Node} (h : n.hasError = false) :
    anyHasError n.children = false := by
  rw [hasError_eq_or, Bool.or_eq_false_iff] at h
  exact h.2

/-- Handing marks up from the children adds none to those a node has. -/
theorem HandsMarkUp.hasError_eq_flagged {n : Node} (h : n.HandsMarkUp)
    (hchildren : ∀ c ∈ n.children, c.hasError = c.flagged) : n.hasError = n.flagged := by
  rw [hasError_eq_or, anyHasError_eq_any, Bool.eq_iff_iff, Bool.or_eq_true, Bool.or_eq_true,
    List.any_eq_true]
  constructor
  · rintro ((herror | hflag) | ⟨c, hc, hmark⟩)
    · exact h (.inl herror)
    · exact hflag
    · exact h (.inr ⟨c, hc, hchildren c hc ▸ hmark⟩)
  · exact fun hflag => .inl (.inr hflag)

mutual

/-- Where every mark is handed up already, the search goes by the marks that the tree came with. -/
theorem hasError_eq_flagged : ∀ root : Node, (∀ n ∈ root.preorder, n.HandsMarkUp) →
    ∀ n ∈ root.preorder, n.hasError = n.flagged
  | ⟨kind, text, role, row, named, missing, flagged, unreadable, children⟩, hup, n, hn => by
    rw [preorder] at hup hn
    have hbelow := hasErrorIn_eq_flagged children fun m hm => hup m (List.mem_cons_of_mem _ hm)
    rcases List.mem_cons.mp hn with rfl | hn
    · have hself := hup _ List.mem_cons_self
      exact hself.hasError_eq_flagged fun c hc => hbelow c (mem_preorderIn_of_mem hc)
    · exact hbelow n hn

theorem hasErrorIn_eq_flagged : ∀ nodes : List Node, (∀ n ∈ preorderIn nodes, n.HandsMarkUp) →
    ∀ n ∈ preorderIn nodes, n.hasError = n.flagged
  | [], _, _, hn => by simp [preorderIn] at hn
  | x :: rest, hup, n, hn => by
    rw [preorderIn] at hup hn
    rcases List.mem_append.mp hn with hn | hn
    · exact hasError_eq_flagged x (fun m hm => hup m (List.mem_append_left _ hm)) n hn
    · exact hasErrorIn_eq_flagged rest (fun m hm => hup m (List.mem_append_right _ hm)) n hn

end

/-! ### The search -/

theorem firstErrorLine_eq_ite (n : Node) :
    n.firstErrorLine = if n.isError then some n.line else firstErrorLineIn n.children := by
  cases n
  rfl

/-- The mark alone decides whether a node is skipped, as a missing node has one. -/
theorem firstErrorLineIn_cons_eq_ite (n : Node) (rest : List Node) :
    firstErrorLineIn (n :: rest) =
      if n.hasError then n.firstErrorLine.or (firstErrorLineIn rest) else firstErrorLineIn rest := by
  have hmarked : (n.hasError || n.missing) = n.hasError := by
    cases hmark : n.hasError with
    | true => rfl
    | false =>
      have herror := isError_eq_false hmark
      rw [isError, Bool.or_eq_false_iff] at herror
      rw [herror.2, Bool.or_false]
  rw [firstErrorLineIn, hmarked]
  cases n.firstErrorLine <;> rfl

theorem firstErrorLineIn_eq_none {nodes : List Node} (h : anyHasError nodes = false) :
    firstErrorLineIn nodes = none := by
  -- Induction on the list is enough: the search never goes down into these nodes.
  induction nodes with
  | nil => rfl
  | cons n rest ih =>
    rw [anyHasError, Bool.or_eq_false_iff] at h
    rw [firstErrorLineIn_cons_eq_ite, h.1, ih h.2]
    rfl

/-- The search comes back with nothing from a node without a mark. -/
theorem firstErrorLine_eq_none {n : Node} (h : n.hasError = false) : n.firstErrorLine = none := by
  rw [firstErrorLine_eq_ite, isError_eq_false h]
  exact firstErrorLineIn_eq_none (anyHasError_children_eq_false h)

/-- Skipping changes nothing: a list is searched in its first node and, if the search comes back from
there, in the rest. -/
theorem firstErrorLineIn_cons (n : Node) (rest : List Node) :
    firstErrorLineIn (n :: rest) = n.firstErrorLine.or (firstErrorLineIn rest) := by
  rw [firstErrorLineIn_cons_eq_ite]
  cases hmark : n.hasError with
  | true => rfl
  | false => rw [firstErrorLine_eq_none hmark]; rfl

mutual

/-- The search gives the line of the first error on the list of all nodes. -/
theorem firstErrorLine_eq_find? : ∀ n : Node,
    n.firstErrorLine = (n.preorder.find? isError).map line
  | ⟨kind, text, role, row, named, missing, flagged, unreadable, children⟩ => by
    rw [firstErrorLine_eq_ite, preorder_eq_cons, List.find?_cons]
    split
    case isTrue herror => rw [herror]; rfl
    case isFalse herror =>
      -- Both sides drop the node itself and go on with its children.
      rw [Bool.not_eq_true] at herror
      rw [herror]
      exact firstErrorLineIn_eq_find? children

theorem firstErrorLineIn_eq_find? : ∀ nodes : List Node,
    firstErrorLineIn nodes = ((preorderIn nodes).find? isError).map line
  | [] => rfl
  | n :: rest => by
    rw [firstErrorLineIn_cons, firstErrorLine_eq_find? n, firstErrorLineIn_eq_find? rest, preorderIn,
      List.find?_append, Option.map_or]

end

/-- The search reports the first error, whichever further nodes are marked. -/
theorem reportsFirstError_firstErrorLine (root : Node) :
    root.ReportsFirstError root.firstErrorLine where
  found l := by
    rw [firstErrorLine_eq_find?, Option.map_eq_some_iff]
    simp only [isFirstError_iff_find?, line, eq_comm]
  absent := by
    rw [firstErrorLine_eq_find?, Option.map_eq_none_iff, List.find?_eq_none]
    simp only [Bool.not_eq_true]

/-- A tree without a mark at its root has no error. -/
theorem isError_eq_false_of_mem_preorder {root : Node} (h : root.hasError = false) :
    ∀ n ∈ root.preorder, n.isError = false :=
  (reportsFirstError_firstErrorLine root).absent.mp (firstErrorLine_eq_none h)

end Node

namespace Script

/-! ### Reading a script -/

theorem parse_eq_ite {script : Script} {root : Node} (hroot : script.root = .ok root)
    (tolerant : Bool) :
    script.parse tolerant =
      if root.hasError && !tolerant then .error (syntaxError root) else .ok root := by
  rw [parse, hroot]
  rfl

/-- **A script that is refused is refused at its first error.**  Reading a script fails exactly if the
root of its tree is marked and errors are not tolerated.  The complaint then names the line of the
first error, and no line exactly if no node of the tree is an error.  Otherwise reading gives the
tree, which has no error if these are not tolerated.  The marks can be any that are handed up to the
root. -/
theorem parse_reports_firstError {script : Script} {root : Node} (hroot : script.root = .ok root)
    (tolerant : Bool) :
    ((∃ e, script.parse tolerant = .error e) ↔ root.hasError = true ∧ tolerant = false) ∧
    (∀ e, script.parse tolerant = .error e → ∃ line : Option Nat,
      e = .raised (.parsing ("Syntax error near line " ++ (line.map toString).getD "None")
        (line.map Int.ofNat)) none ∧
      root.ReportsFirstError line) ∧
    (∀ n, script.parse tolerant = .ok n →
      n = root ∧ (tolerant = false → ∀ m ∈ root.preorder, m.isError = false)) ∧
    ((∀ n ∈ root.preorder, n.HandsMarkUp) → ∀ n ∈ root.preorder, n.hasError = n.flagged) := by
  have hmarks := root.hasError_eq_flagged
  rw [parse_eq_ite hroot]
  split
  case isTrue hfails =>
    have hcause : root.hasError = true ∧ tolerant = false := by simpa using hfails
    refine ⟨⟨fun _ => hcause, fun _ => ⟨_, rfl⟩⟩, ?_, nofun, hmarks⟩
    rintro e ⟨⟩
    exact ⟨root.firstErrorLine, rfl, root.reportsFirstError_firstErrorLine⟩
  case isFalse hreads =>
    refine ⟨⟨nofun, fun hcause => ?_⟩, nofun, ?_, hmarks⟩
    · simp [hcause] at hreads
    · rintro n ⟨⟩
      refine ⟨rfl, fun hstrict => Node.isError_eq_false_of_mem_preorder ?_⟩
      simpa [hstrict] using hreads

/-- Four statements: a marked one without an error, one without a mark, one in which the closing
parenthesis is missing on the next row, and text that is no statement. -/
def damagedTree : Node :=
  { kind := .module, flagged := true, children :=
    [ { kind := .expressionStatement, flagged := true, children :=
        [{ kind := .identifier, text := "x" }] },
      { kind := .expressionStatement, row := 1, children :=
        [{ kind := .integer, text := "1", row := 1 }] },
      { kind := .expressionStatement, row := 2, flagged := true, children :=
        [{ kind := .parenthesized, row := 2, flagged := true, children :=
          [ { kind := .other "(", text := "(", row := 2, named := false },
            { kind := .identifier, text := "y", row := 2 },
            { kind := .other ")", row := 3, named := false, missing := true, flagged := true }] }] },
      { kind := .error, row := 5, flagged := true }] }

/-- The search comes back from the first statement of the damaged tree, passes over the second and
stops at the missing parenthesis. -/
theorem parse_reports_firstError_damagedTree :
    (tree damagedTree).root = .ok damagedTree ∧
    (∀ n ∈ damagedTree.preorder, n.HandsMarkUp) ∧
    (∀ n ∈ damagedTree.preorder, n.hasError = n.flagged) ∧
    (tree damagedTree).parse false =
      .error (.raised (.parsing "Syntax error near line 4" (some 4)) none) := by
  have hroot : (tree damagedTree).root = .ok damagedTree := rfl
  have hup : ∀ n ∈ damagedTree.preorder, n.HandsMarkUp := by decide
  obtain ⟨hfails, hline, -, hmarks⟩ := parse_reports_firstError hroot false
  refine ⟨hroot, hup, hmarks hup, ?_⟩
  obtain ⟨e, he⟩ := hfails.mpr ⟨rfl, rfl⟩
  obtain ⟨line, rfl, hreport⟩ := hline e he
  obtain rfl : line = some 4 := (hreport.found 4).mpr ⟨_, Node.isFirstError_iff_find?.mpr rfl, rfl⟩
  exact he

/-- A tree that is nothing but marked has no line to name. -/
example : (tree { kind := .module, flagged := true }).parse false =
    .error (.raised (.parsing "Syntax error near line None" none) none) := rfl

end Script

end ScriptScope
