import Mathlib.Data.List.Pairwise
import ScriptScope.Proofs.NameCompletion

/-!
# Variables that fit a type

Which variables can be passed as a type is told by the innermost variable of each name: the list
goes by the variables alone, while a lookup also meets the imports on its way out.

The list holds exactly the names whose innermost variable fits, each once and inner scopes first
(`varsOfType_fitting`).  A lookup of such a name finds that variable, unless an import stands in a
scope further in: then the lookup finds the import, and the variable is on the list all the same
(`not_fits_importedOver`).
-/

namespace ScriptScope

/-! ### First occurrences in a row of lists -/

/-- First occurrences stand in the order of the lists that they come from. -/
theorem pairwise_findIdx_firstByFrom {α β : Type} [DecidableEq β] (lists : α → List β)
    (seen : List β) (xs : List α) :
    (firstByFrom id seen (xs.flatMap lists)).Pairwise (fun a b =>
      xs.findIdx (fun x => decide (a ∈ lists x)) ≤ xs.findIdx (fun x => decide (b ∈ lists x))) := by
  induction xs generalizing seen with
  | nil => exact .nil
  | cons x rest ih =>
    rw [List.flatMap_cons, firstByFrom_append, List.pairwise_append]
    -- what comes from the first list has index zero
    have hfirst : ∀ a ∈ firstByFrom id seen (lists x),
        (x :: rest).findIdx (fun y => decide (a ∈ lists y)) = 0 := by
      intro a ha
      have hmem := mem_of_mem_firstByFrom _ _ _ _ ha
      simp [List.findIdx_cons, hmem]
    have hlater : ∀ a ∈ firstByFrom id ((lists x).map id ++ seen) (rest.flatMap lists),
        (x :: rest).findIdx (fun y => decide (a ∈ lists y)) =
          rest.findIdx (fun y => decide (a ∈ lists y)) + 1 := by
      intro a ha
      have hnew : a ∉ lists x := by
        have hkeys := (mem_firstByFrom_keys id _ _ a).mp (by rwa [List.map_id])
        intro h
        exact hkeys.2 (List.mem_append_left _ (by rwa [List.map_id]))
      simp [List.findIdx_cons, hnew]
    refine ⟨List.pairwise_of_forall_mem_list fun a ha b _ => ?_, ?_, fun a ha b _ => ?_⟩
    · rw [hfirst a ha]
      exact Nat.zero_le _
    · refine (ih _).imp_of_mem fun {a b} ha hb hle => ?_
      rw [hlater a ha, hlater b hb]
      exact Nat.succ_le_succ hle
    · rw [hfirst a ha]
      exact Nat.zero_le _

namespace Bindings

theorem get?_eq_none_iff {table : Bindings} {name : Label} :
    table.get? name = none ↔ name ∉ table.names := by
  rw [← isSome_get?_iff, Option.not_isSome_iff_eq_none]

/-- First occurrences bind the names as the whole table does. -/
theorem get?_firstBy (table : Bindings) (name : Label) :
    get? (firstBy (·.1) table) name = table.get? name := by
  unfold get?
  congr 1
  convert find?_firstBy (fun b : Label × Descriptor => b.1) table name

end Bindings

namespace Store

/-! ### The innermost variable of a name -/

/-- On the way out from a scope, `t` is the first scope with a variable of the name; `way` are the
scopes before it. -/
structure InnermostVar (st : Store) (s : ScopeId) (name : String) (way : List ScopeId) (t : ScopeId)
    (d : Descriptor) : Prop where
  leads : ∃ outer, st.chain s = way ++ t :: outer
  free : ∀ i ∈ way, (st.scope i).vars.get? (some name) = none
  bound : (st.scope t).vars.get? (some name) = some d

/-- A lookup of the name meets an import before the innermost variable. -/
def HiddenByImport (st : Store) (s : ScopeId) (name : String) : Prop :=
  ∃ way t d e, st.InnermostVar s name way t d ∧
    way.findSome? (fun i => (st.scope i).imports.get? (some name)) = some e ∧
    st.find s (some name) = .held e

variable {st : Store} {s t : ScopeId} {name : String} {way : List ScopeId} {d : Descriptor}

/-- The variables of a name, read through the whole way out, start with the innermost one. -/
theorem get?_varsInSight_iff :
    (st.varsInSight s).get? (some name) = some d ↔ ∃ way t, st.InnermostVar s name way t d := by
  unfold varsInSight
  rw [Bindings.get?_flatMap, List.findSome?_eq_some_iff]
  constructor
  · rintro ⟨way, t, outer, hchain, hbound, hfree⟩
    exact ⟨way, t, ⟨outer, hchain⟩, hfree, hbound⟩
  · rintro ⟨way, t, ⟨outer, hchain⟩, hfree, hbound⟩
    exact ⟨way, t, outer, hchain, hbound, hfree⟩

/-- Through scopes without a variable of the name, a lookup meets imports only. -/
theorem findSome?_lookup?_of_free
    (hfree : ∀ i ∈ way, (st.scope i).vars.get? (some name) = none) :
    way.findSome? (fun i => (st.scope i).lookup? (some name)) =
      way.findSome? (fun i => (st.scope i).imports.get? (some name)) := by
  induction way with
  | nil => rfl
  | cons i rest ih =>
    rw [List.forall_mem_cons] at hfree
    rw [List.findSome?_cons, List.findSome?_cons, ih hfree.2, ScopeInfo.lookup?, hfree.1]
    rfl

theorem InnermostVar.binding?_eq (h : st.InnermostVar s name way t d) :
    st.binding? s (some name) =
      (way.findSome? (fun i => (st.scope i).imports.get? (some name))).or (some d) := by
  obtain ⟨outer, hchain⟩ := h.leads
  have ht : (st.scope t).lookup? (some name) = some d := by
    rw [ScopeInfo.lookup?, h.bound]
    rfl
  unfold binding?
  rw [hchain, List.findSome?_append, findSome?_lookup?_of_free h.free, List.findSome?_cons, ht]

/-- A lookup finds the innermost variable, unless an import hides it. -/
theorem InnermostVar.find_or_hidden (h : st.InnermostVar s name way t d) :
    st.find s (some name) = .held d ∨ st.HiddenByImport s name := by
  have hbinding := h.binding?_eq
  cases himport : way.findSome? (fun i => (st.scope i).imports.get? (some name)) with
  | none =>
    rw [himport] at hbinding
    exact .inl (find_of_binding? hbinding)
  | some e =>
    rw [himport] at hbinding
    exact .inr ⟨way, t, d, e, h, himport, find_of_binding? hbinding⟩

/-- The number of scopes before the innermost variable. -/
theorem InnermostVar.length_way (h : st.InnermostVar s name way t d) :
    (st.chain s).findIdx (fun i => decide (some name ∈ (st.scope i).vars.names)) = way.length := by
  obtain ⟨outer, hchain⟩ := h.leads
  have hway : ∀ i ∈ way, decide (some name ∈ (st.scope i).vars.names) = false := by
    intro i hi
    rw [decide_eq_false_iff_not, ← Bindings.get?_eq_none_iff]
    exact h.free i hi
  have ht : some name ∈ (st.scope t).vars.names := by
    rw [← Bindings.isSome_get?_iff, h.bound]
    rfl
  rw [hchain, List.findIdx_append, List.findIdx_eq_length_of_false hway]
  simp [List.findIdx_cons, ht]

/-! ### The list -/

/-- All variables on the way out have names. -/
def VarsNamed (st : Store) (s : ScopeId) : Prop :=
  ∀ t ∈ st.chain s, ∀ b ∈ (st.scope t).vars, b.1.isSome = true

/-- A list of the variables that can be passed as a type. -/
structure Fitting (st : Store) (s : ScopeId) (target : String) (hostTarget : Option String)
    (names : List String) : Prop where
  nodup : names.Nodup
  mem_iff : ∀ name, name ∈ names ↔
    ¬ (st.scope s).context.captureName.toList <+: name.toList ∧
      ∃ way t d, st.InnermostVar s name way t d ∧
        Host.isAssignable (st.typeName d) target hostTarget = true
  fits_or_hidden : ∀ name ∈ names,
    Host.isAssignable (st.valueType (st.find s (some name))) target hostTarget = true ∨
      st.HiddenByImport s name
  innerFirst : names.Pairwise (fun a b => ∀ way t d way' t' d',
    st.InnermostVar s a way t d → st.InnermostVar s b way' t' d' → way.length ≤ way'.length)

section InSight

variable {table : List (String × Descriptor)} {target : String} {hostTarget : Option String}
  {names : List String}

theorem isSome_varsOfType_iff (target : String) (hostTarget : Option String) :
    (st.varsOfType s target hostTarget).isSome = true ↔ st.VarsNamed s := by
  have hkeys : ∀ label, label ∈ (st.allVars s).map (·.1) ↔ label ∈ (st.varsInSight s).map (·.1) :=
    fun label => mem_firstBy_keys _ _ label
  unfold varsOfType
  rw [Option.isSome_map, isSome_named?_iff]
  calc (∀ b ∈ st.allVars s, b.1.isSome = true)
      ↔ ∀ label ∈ (st.allVars s).map (·.1), label.isSome = true := by rw [List.forall_mem_map]
    _ ↔ ∀ label ∈ (st.varsInSight s).map (·.1), label.isSome = true := by simp only [hkeys]
    _ ↔ st.VarsNamed s := by
      rw [List.forall_mem_map]
      unfold varsInSight VarsNamed
      simp only [List.forall_mem_flatMap]

/-- The variables in sight, by name: each name once, inner scopes first. -/
theorem map_fst_allVars (hnamed : st.allVars s = Bindings.lift table) :
    table.map (fun b => some b.1) =
      firstBy id ((st.chain s).flatMap (fun i => (st.scope i).vars.names)) := by
  rw [← Bindings.names_lift, ← hnamed]
  unfold allVars Bindings.names firstBy varsInSight
  rw [map_firstByFrom, List.map_flatMap]

theorem nodup_fst_allVars (hnamed : st.allVars s = Bindings.lift table) :
    (table.map (·.1)).Nodup := by
  have hlabels : (table.map (fun b => some b.1)).Nodup := by
    rw [map_fst_allVars hnamed, ← List.map_id (firstBy _ _)]
    exact nodup_firstBy_keys _ _
  refine List.Nodup.of_map some ?_
  rwa [List.map_map]

/-- A name stands with its innermost variable. -/
theorem mem_allVars_iff (hnamed : st.allVars s = Bindings.lift table) :
    (name, d) ∈ table ↔ ∃ way t, st.InnermostVar s name way t d := by
  have hget : (st.varsInSight s).get? (some name) =
      (table.find? (fun b => b.1 == name)).map (·.2) := by
    rw [← Bindings.get?_lift, ← hnamed]
    exact (Bindings.get?_firstBy _ _).symm
  rw [← get?_varsInSight_iff, hget, Option.map_eq_some_iff]
  constructor
  · intro hmem
    exact ⟨(name, d), find?_key_of_mem Prod.fst (nodup_fst_allVars hnamed) hmem, rfl⟩
  · rintro ⟨⟨other, e⟩, hfind, rfl⟩
    have hname : other = name := by simpa using List.find?_some hfind
    rw [← hname]
    exact List.mem_of_find?_eq_some hfind

/-- Names of inner scopes stand first. -/
theorem pairwise_allVars (hnamed : st.allVars s = Bindings.lift table) :
    (table.map (·.1)).Pairwise (fun a b => ∀ way t d way' t' d',
      st.InnermostVar s a way t d → st.InnermostVar s b way' t' d' →
        way.length ≤ way'.length) := by
  have hlabels : (table.map (fun b => some b.1)).Pairwise (fun a b =>
      (st.chain s).findIdx (fun i => decide (a ∈ (st.scope i).vars.names)) ≤
        (st.chain s).findIdx (fun i => decide (b ∈ (st.scope i).vars.names))) := by
    rw [map_fst_allVars hnamed, firstBy]
    convert pairwise_findIdx_firstByFrom (fun i => (st.scope i).vars.names) [] (st.chain s)
  rw [List.pairwise_map] at hlabels ⊢
  refine hlabels.imp fun {a b} hle way t d way' t' d' ha hb => ?_
  rwa [ha.length_way, hb.length_way] at hle

/-- The list is what is left of the variables in sight. -/
theorem exists_allVars_of_varsOfType (hnames : st.varsOfType s target hostTarget = some names) :
    ∃ table, st.allVars s = Bindings.lift table ∧ names.Sublist (table.map (·.1)) ∧
      ∀ name, name ∈ names ↔ ∃ d, (name, d) ∈ table ∧
        ¬ (st.scope s).context.captureName.toList <+: name.toList ∧
        Host.isAssignable (st.typeName d) target hostTarget = true := by
  obtain ⟨table, htable, rfl⟩ := Option.map_eq_some_iff.mp hnames
  refine ⟨table, named?_eq_some_iff.mp htable, List.filter_sublist.map _, fun name => ?_⟩
  simp [Text.startsWith_iff, ← Bool.not_eq_true]

theorem fitting_of_varsOfType (hnames : st.varsOfType s target hostTarget = some names) :
    st.Fitting s target hostTarget names := by
  obtain ⟨table, hnamed, hsublist, hmem⟩ := exists_allVars_of_varsOfType hnames
  have hmem' : ∀ name, name ∈ names ↔
      ¬ (st.scope s).context.captureName.toList <+: name.toList ∧
        ∃ way t d, st.InnermostVar s name way t d ∧
          Host.isAssignable (st.typeName d) target hostTarget = true := by
    intro name
    rw [hmem]
    constructor
    · rintro ⟨d, hd, hcapture, hfits⟩
      obtain ⟨way, t, hvar⟩ := (mem_allVars_iff hnamed).mp hd
      exact ⟨hcapture, way, t, d, hvar, hfits⟩
    · rintro ⟨hcapture, way, t, d, hvar, hfits⟩
      exact ⟨d, (mem_allVars_iff hnamed).mpr ⟨way, t, hvar⟩, hcapture, hfits⟩
  refine ⟨(nodup_fst_allVars hnamed).sublist hsublist, hmem', fun name hname => ?_,
    (pairwise_allVars hnamed).sublist hsublist⟩
  obtain ⟨-, way, t, d, hvar, hfits⟩ := (hmem' name).mp hname
  refine hvar.find_or_hidden.imp_left fun hfind => ?_
  rw [hfind]
  exact hfits

end InSight

end Store

namespace Completion

/-- **The variables that fit a type.**  A list of the variables that can be passed as a type exists
if and only if the variables on the way out have names.  It holds, each once and inner scopes first,
the names that do not start with the capture name and whose innermost variable fits; what a lookup
finds for such a name fits too, unless it meets an import before the variable.  The choices for a
parameter at the end of a script are such a list. -/
theorem varsOfType_fitting (target : String) (hostType : Option String) :
    (∀ (st : Store) (s : ScopeId),
      ((st.varsOfType s target hostType).isSome = true ↔ st.VarsNamed s) ∧
      ∀ names, st.varsOfType s target hostType = some names →
        st.Fitting s target hostType names) ∧
    (∀ (service : Service) (source : String) (names : List String),
      service.parameterChoices source target hostType = some names →
      (service.analyse source).store.Fitting (service.analyse source).last target
        (hostType <|> Host.boxed? target) names) := by
  refine ⟨fun st s => ⟨Store.isSome_varsOfType_iff target hostType, ?_⟩, ?_⟩
  · intro names hnames
    exact Store.fitting_of_varsOfType hnames
  · intro service source names hnames
    exact Store.fitting_of_varsOfType hnames

/-- A script with a function that imports a package under the name of an outer variable and binds
another one anew. -/
def importedOverScript : List Stmt :=
  [ .assign [.mk [.name (some "x")] (some .integer)],
    .assign [.mk [.name (some "y")] (some .integer)],
    .assign [.mk [.name (some "n")] (some .integer)],
    .function "f" (some [some "z"])
      [ .importNames [.renamed (some "java.lang") (some "x")],
        .assign [.mk [.name (some "y")] (some .text)],
        .assign [.mk [.name (some "____GRAB____")] (some .integer)],
        .assign [.mk [.name (some "w")] (some .float)] ] ]

theorem varsOfType_fitting_importedOver :
    let a := Analysis.ofStatements {} importedOverScript
    a.store.varsOfType a.last "long" none = some ["w", "x", "n"] ∧
      a.store.Fitting a.last "long" none ["w", "x", "n"] := by
  intro a
  have hnames : a.store.varsOfType a.last "long" none = some ["w", "x", "n"] := by
    decide +kernel
  exact ⟨hnames, ((varsOfType_fitting "long" none).1 a.store a.last).2 _ hnames⟩

/-- An import in a function hides an outer variable from a lookup, and the variable is listed: what
the lookup finds does not fit. -/
theorem not_fits_importedOver :
    ¬ ∀ (ctx : Context) (body : List Stmt) (target : String) (hostTarget : Option String)
      (names : List String),
      (Analysis.ofStatements ctx body).store.varsOfType (Analysis.ofStatements ctx body).last target
        hostTarget = some names →
      ∀ name ∈ names, Host.isAssignable ((Analysis.ofStatements ctx body).store.valueType
        ((Analysis.ofStatements ctx body).store.find (Analysis.ofStatements ctx body).last
          (some name))) target hostTarget = true := by
  intro h
  have hfits := h {} importedOverScript "long" none ["w", "x", "n"] (by decide +kernel) "x" (by simp)
  revert hfits
  decide +kernel

end Completion

end ScriptScope
