import ScriptScope.Proofs.Lookups
import ScriptScope.Proofs.Outline

/-!
# The latest binding of a name

Walking a readable statement enters the bindings that it makes (`Store.bindingsOf`) into the tables
of its scope, variables into one and imports into the other (`records_walkStmt`).  A table keeps the
latest binding of a name, so the latest variable wins over all earlier ones and the latest import
over all earlier ones; but a lookup reads variables before imports, whichever came last.

Main statement: `find_latest`.
-/

namespace ScriptScope

/-! ### The last binding of a label -/

namespace Binding

/-- The last binding of a label. -/
def last? (label : Label) (bindings : List Binding) : Option Binding :=
  bindings.reverse.find? (fun b => b.label == label)

/-- The descriptor of the last binding of a label that is of a given kind. -/
def lastOf? (imported : Bool) (label : Label) (bindings : List Binding) : Option Descriptor :=
  (bindings.reverse.find? (fun b => b.imported == imported && b.label == label)).map
    Binding.descriptor

/-- A table keeps the last binding of a label that was entered. -/
theorem get?_enter (imported : Bool) (table : Bindings) (bs : List Binding) (label : Label) :
    (enter imported table bs).get? label = (lastOf? imported label bs).or (table.get? label) := by
  induction bs generalizing table with
  | nil => rfl
  | cons b rest ih =>
    rw [enter, List.foldl_cons, ← enter, ih, lastOf?, lastOf?, List.reverse_cons, List.find?_append,
      Option.map_or, Option.or_assoc]
    congr 1
    by_cases hkind : b.imported = imported
    · by_cases hlabel : b.label = label
      · simp [hkind, hlabel, Bindings.get?_bind]
      · simp [hkind, hlabel, Bindings.get?_bind, Ne.symm hlabel]
    · simp [hkind]

/-- The last binding of a label is the last of its kind. -/
theorem lastOf?_of_last? {bs : List Binding} {label : Label} {b : Binding}
    (h : last? label bs = some b) : lastOf? b.imported label bs = some b.descriptor := by
  obtain ⟨hlabel, after, before, hbs, hafter⟩ := List.find?_eq_some_iff_append.mp h
  have hfound : bs.reverse.find? (fun a => a.imported == b.imported && a.label == label) =
      some b := by
    refine List.find?_eq_some_iff_append.mpr ⟨by simpa using hlabel, after, before, hbs, ?_⟩
    intro a ha
    have hne := hafter a ha
    simp only [Bool.not_eq_true', Bool.and_eq_false_iff] at hne ⊢
    exact .inr hne
  rw [lastOf?, hfound, Option.map_some]

end Binding

namespace Store

/-! ### Walking records these bindings -/

/-- The bindings were entered into the tables of a scope, and nothing else was; but scopes may have
been opened. -/
structure Records (s : ScopeId) (bindings : List Binding) (st st' : Store) : Prop where
  scopes_le : st.scopes.length ≤ st'.scopes.length
  vars : (st'.scope s).vars = Binding.enter false (st.scope s).vars bindings
  imports : (st'.scope s).imports = Binding.enter true (st.scope s).imports bindings

variable {s : ScopeId} {st st' st'' : Store} {bs more : List Binding}

theorem Enters.records {locals : List Label} (h : Enters s locals bs st st') :
    Records s bs st st' :=
  ⟨Nat.le_of_eq h.scopes.symm, h.vars, h.imports⟩

theorem Records.hasScope (h : Records s bs st st') {t : ScopeId} (ht : st.HasScope t) :
    st'.HasScope t :=
  Nat.lt_of_lt_of_le ht h.scopes_le

theorem Records.trans (h : Records s bs st st') (h' : Records s more st' st'') :
    Records s (bs ++ more) st st'' where
  scopes_le := Nat.le_trans h.scopes_le h'.scopes_le
  vars := by rw [h'.vars, h.vars, Binding.enter_append]
  imports := by rw [h'.imports, h.imports, Binding.enter_append]

theorem Records.refl (s : ScopeId) (st : Store) : Records s [] st st :=
  (Enters.refl s st).records

/-! ### Definitions -/

/-- What a definition does in its own scope enters nothing outside. -/
theorem records_innerWalk (hst : st.Sound) (hs : st.HasScope s) (className : Option String)
    (params : List Label) (body : List Stmt) :
    Records s [] st (st.innerWalk s className params body) := by
  obtain ⟨hvars, himports⟩ := tables_innerWalk hst hs className params body
  refine ⟨?_, hvars, himports⟩
  have hlen := (writes_inner hst hs className params body).change.scopes_le
  rw [length_scopes_addChild] at hlen
  omega

theorem records_function (hst : st.Sound) (hs : st.HasScope s) (name : String)
    (params : List Label) {body : List Stmt} (hread : Stmt.allReadable body = true) :
    Records s [⟨false, some name, .function (st.functionOf s name params body)⟩] st
      (walkStmt s (.function name (some params) body) st).store := by
  have hinner := records_innerWalk hst hs none params body
  obtain ⟨returns, hreturns⟩ :=
    exists_returnType (st.innerWalk s none params body) (st.addChild s none).1 hread
  rw [walkStmt_function_eq, functionOf, hreturns]
  exact hinner.trans (enters_bindVar (hinner.hasScope hs) _ _).records

theorem records_classDef (hst : st.Sound) (hs : st.HasScope s) (name : String) {bases : List Expr}
    (hread : Expr.allReadable bases = true) (body : List Stmt) :
    Records s [⟨false, some name, .script ⟨(st.innerWalk s (some name) [] body).classes.length⟩⟩] st
      (walkStmt s (.classDef name bases body) st).store := by
  have hmid := ((standing_near hst hs).after_innerWalk (some name) [] body).sound
  have hinner := records_innerWalk hst hs (some name) [] body
  obtain ⟨superclasses, -, hend⟩ := exists_walkStmt_classDef s name hread body st
  rw [hend]
  exact hinner.trans (enters_closeClass hmid (hinner.hasScope hs) _ _ _).records

/-! ### Statements -/

mutual

/-- A readable statement enters the bindings that it makes. -/
theorem records_walkStmt (stmt : Stmt) {s : ScopeId} {st : Store} (hst : st.Sound)
    (hs : st.HasScope s) (h : stmt.readable = true) :
    Records s (bindingsOf s stmt st) st (walkStmt s stmt st).store := by
  cases stmt with
  | importNames items => exact (enters_importNamesStmt hs h).records
  | importFrom source wildcard items => exact (enters_importFromStmt hs h).records
  | assign items => exact (enters_assignStmt hs h).records
  | function name params body =>
    rw [Stmt.readable, Bool.and_eq_true] at h
    obtain ⟨params, rfl⟩ := Option.isSome_iff_exists.mp h.1
    exact records_function hst hs name params h.2
  | classDef name bases body =>
    rw [Stmt.readable, Bool.and_eq_true] at h
    exact records_classDef hst hs name h.1 body
  | decorated definition => exact records_walkStmt definition hst hs h
  | control parts => exact records_walkControl parts hst hs h
  | ret value => exact .refl s st
  | other => exact .refl s st
  | fault => simp [Stmt.readable] at h

theorem records_walkBody (body : List Stmt) {s : ScopeId} {st : Store} (hst : st.Sound)
    (hs : st.HasScope s) (h : Stmt.allReadable body = true) :
    Records s (bindingsOfBody s body st) st (walkBody s body st) := by
  match body with
  | [] => exact .refl s st
  | stmt :: rest =>
    rw [Stmt.allReadable, Bool.and_eq_true] at h
    have hstand := (standing_near hst hs).after_walkStmt stmt
    rw [bindingsOfBody, walkBody]
    exact (records_walkStmt stmt hst hs h.1).trans
      (records_walkBody rest hstand.sound hstand.has h.2)

theorem records_walkControl (parts : Control) {s : ScopeId} {st : Store} (hst : st.Sound)
    (hs : st.HasScope s) (h : parts.readable = true) :
    Records s (bindingsOfControl s parts st) st (walkControl s parts st).store := by
  match parts with
  | .mk targets parts =>
    rw [Control.readable, Bool.and_eq_true] at h
    obtain ⟨targets, rfl⟩ := Option.isSome_iff_exists.mp h.1
    have hstand := (standing_near hst hs).after_targets targets
    have hfirst := (enters_targets targets hs).records
    rw [bindingsOfControl, walkControl]
    exact hfirst.trans (records_walkParts parts hstand.sound hstand.has h.2)

theorem records_walkParts (parts : List Part) {s : ScopeId} {st : Store} (hst : st.Sound)
    (hs : st.HasScope s) (h : Part.allReadable parts = true) :
    Records s (bindingsOfParts s parts st) st (walkParts s parts st).store := by
  match parts with
  | [] => exact .refl s st
  | .block body :: rest =>
    rw [Part.allReadable, Bool.and_eq_true] at h
    have hstand := (standing_near hst hs).after_walkBody body
    rw [bindingsOfParts, walkParts]
    exact (records_walkBody body hst hs h.1).trans
      (records_walkParts rest hstand.sound hstand.has h.2)
  | .clause inner :: rest =>
    rw [Part.allReadable, Bool.and_eq_true] at h
    have hstand := (standing_near hst hs).after_walkControl inner
    rw [bindingsOfParts, walkParts,
      andThen_of_completed (Standing.completed_walkControl inner (standing_near hst hs) h.1)]
    exact (records_walkControl inner hst hs h.1).trans
      (records_walkParts rest hstand.sound hstand.has h.2)

end

/-! ### Looking the name up -/

/-- A scope that binds a name is where a lookup from it ends. -/
theorem find_of_lookup? (hst : st.Sound) (hs : st.HasScope s) {label : Label} {d : Descriptor}
    (h : (st.scope s).lookup? label = some d) : st.find s label = .held d := by
  apply find_of_binding?
  rw [binding?_eq hst hs, h, Option.some_or]

/-- What a scope has for a name after bindings were entered: the last variable, or the variable that
was there, or the last import, or the import that was there. -/
theorem Records.lookup?_eq (h : Records s bs st st') (label : Label) :
    (st'.scope s).lookup? label =
      ((Binding.lastOf? false label bs).or ((st.scope s).vars.get? label)).or
        ((Binding.lastOf? true label bs).or ((st.scope s).imports.get? label)) := by
  rw [ScopeInfo.lookup?, h.vars, h.imports, Binding.get?_enter, Binding.get?_enter]
  exact Option.orElse_eq_or

/-- **The latest binding.**  A readable statement enters the bindings that it makes into the tables
of its scope, in order.  A name that it binds is found as it was bound last, if that was as a
variable.  If it was bound last as an import, it is found as that import unless it is a variable,
bound by the statement itself or before it; then it is found as it was last bound as a variable. -/
theorem find_latest (st : Store) (s : ScopeId) (hst : st.Sound) (hs : st.HasScope s) {stmt : Stmt}
    (hread : stmt.readable = true) :
    let made := bindingsOf s stmt st
    let after := (walkStmt s stmt st).store
    (after.scope s).vars = Binding.enter false (st.scope s).vars made ∧
      (after.scope s).imports = Binding.enter true (st.scope s).imports made ∧
      ∀ label b, Binding.last? label made = some b →
        (b.imported = false → after.find s label = .held b.descriptor) ∧
        (b.imported = true → after.find s label = .held
          (((Binding.lastOf? false label made).or ((st.scope s).vars.get? label)).getD
            b.descriptor)) := by
  intro made after
  have hrecords : Records s made st after := records_walkStmt stmt hst hs hread
  have hstand := (standing_near hst hs).after_walkStmt stmt
  refine ⟨hrecords.vars, hrecords.imports, fun label b hlast => ⟨fun hvar => ?_, fun himport => ?_⟩⟩
  all_goals
    have hdescriptor := Binding.lastOf?_of_last? hlast
    refine find_of_lookup? hstand.sound hstand.has ?_
    rw [hrecords.lookup?_eq]
  · rw [hvar] at hdescriptor
    rw [hdescriptor, Option.some_or, Option.some_or]
  · rw [himport] at hdescriptor
    rw [hdescriptor, Option.some_or]
    cases (Binding.lastOf? false label made).or ((st.scope s).vars.get? label) <;> rfl

end Store

namespace Analysis

open Store

/-- A module that is imported, or else replaced by a text. -/
def guardedImport : Stmt :=
  .control (.mk (some [])
    [.block [.importNames [.plain (some "json.decoder")]],
      .clause (.mk (some []) [.block [.assign [.mk [.name (some "json")] (some .text)]]])])

theorem find_latest_guardedImport :
    (empty {}).store.Sound ∧ (empty {}).store.HasScope (empty {}).root ∧
      guardedImport.readable = true ∧
      Binding.last? (some "json") (bindingsOf (empty {}).root guardedImport (empty {}).store) =
        some ⟨false, some "json", .instanceOf Host.textType none⟩ ∧
      (walkStmt (empty {}).root guardedImport (empty {}).store).store.find (empty {}).root
        (some "json") = .held (.instanceOf Host.textType none) :=
  have hsound : (empty {}).store.Sound := sound_empty {}
  have hhas : (empty {}).store.HasScope (empty {}).root := Nat.zero_lt_one
  have hlast : Binding.last? (some "json")
      (bindingsOf (empty {}).root guardedImport (empty {}).store) =
        some ⟨false, some "json", .instanceOf Host.textType none⟩ := by decide
  ⟨hsound, hhas, by decide, hlast,
    ((find_latest _ _ hsound hhas (by decide)).2.2 _ _ hlast).1 rfl⟩

/-- After `x = 1`, the statement `import x` binds `x` as a module, but the variable is found. -/
theorem not_find_latest_imported :
    ¬ ∀ (ctx : Context) (body : List Stmt) (stmt : Stmt), stmt.readable = true →
      ∀ label b,
        Binding.last? label (bindingsOf (empty ctx).root stmt (ofStatements ctx body).store) =
          some b →
        (walkStmt (empty ctx).root stmt (ofStatements ctx body).store).store.find (empty ctx).root
          label = .held b.descriptor := by
  intro h
  have hfound := h {} [.assign [.mk [.name (some "x")] (some .integer)]]
    (.importNames [.plain (some "x")]) (by decide) (some "x") ⟨true, some "x", .static "x"⟩
    (by decide)
  revert hfound
  decide

end Analysis

end ScriptScope
