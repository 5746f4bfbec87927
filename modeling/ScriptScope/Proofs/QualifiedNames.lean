import Mathlib.Data.List.Induction
import Mathlib.Data.List.Infix
import ScriptScope.Proofs.Lookups
import ScriptScope.Proofs.NameCompletion

/-!
# Qualified names

What has the qualified name `p₁.p₂.….pₙ` can be imported in two ways: `from p₁.….pₙ₋₁ import pₙ`
binds `pₙ` to it at once, while `import p₁.….pₙ` binds only `p₁`, and the expression `p₁.p₂.….pₙ`
goes from there one member at a time.

The first way leads to the name, unless `pₙ` is a variable.  The second one does if each package
between `p₁` and `pₙ` is a module or is listed by the module before it, and else it leads nowhere,
however well `pₙ` is known (`infer_qualified`).
-/

namespace ScriptScope

/-- A name with further parts behind it. -/
def Text.dotted (first : String) (parts : List String) : String :=
  parts.foldl (fun path part => path ++ "." ++ part) first

/-- The expression that starts at a name and goes along its members. -/
def Expr.along (first : String) (parts : List String) : Expr :=
  parts.foldl (fun object part => .member object (some part)) (.name (some first))

/-- A name that qualified names can start with. -/
structure Text.StartsPath (first : String) : Prop where
  ne_empty : first ≠ ""
  undotted : '.' ∉ first.toList
  unmarked : Text.startsWith first "<" = false

namespace Text

variable {first : String}

theorem dotted_concat (first : String) (parts : List String) (part : String) :
    dotted first (parts ++ [part]) = dotted first parts ++ "." ++ part := by
  unfold dotted
  rw [List.foldl_append]
  rfl

/-- A qualified name is its first part, or goes on with a dot. -/
theorem dotted_cases (first : String) (parts : List String) :
    dotted first parts = first ∨ ∃ more, dotted first parts = first ++ "." ++ more := by
  induction parts using List.reverseRecOn with
  | nil => exact .inl rfl
  | append_singleton parts part ih =>
    right
    rw [dotted_concat]
    rcases ih with ih | ⟨more, ih⟩
    · exact ⟨part, by rw [ih]⟩
    · exact ⟨more ++ "." ++ part, by rw [ih]; simp only [String.append_assoc]⟩

/-- The characters of a qualified name begin with those of its first part. -/
theorem exists_toList_dotted (first : String) (parts : List String) :
    ∃ cs, (dotted first parts).toList = first.toList ++ cs := by
  rcases dotted_cases first parts with h | ⟨more, h⟩
  · exact ⟨[], by rw [h, List.append_nil]⟩
  · exact ⟨'.' :: more.toList, by rw [h]; simp⟩

namespace StartsPath

variable (h : StartsPath first) (parts : List String)

include h

theorem before_dotted : before '.' (dotted first parts) = first :=
  before_dot_eq_iff.mpr ⟨h.undotted, dotted_cases first parts⟩

/-- The first character of a qualified name is that of its first part. -/
theorem exists_cons : ∃ c cs, c ∈ first.toList ∧ c ≠ '<' ∧
    (dotted first parts).toList = c :: cs := by
  obtain ⟨cs, hcs⟩ := exists_toList_dotted first parts
  have hunmarked := h.unmarked
  cases hfirst : first.toList with
  | nil => exact absurd (String.toList_inj.mp (hfirst.trans String.toList_empty.symm)) h.ne_empty
  | cons c rest =>
    refine ⟨c, rest ++ cs, List.mem_cons_self .., ?_, by rw [hcs, hfirst, List.cons_append]⟩
    rintro rfl
    simp [startsWith, hfirst] at hunmarked

theorem dotted_ne_empty : dotted first parts ≠ "" := by
  obtain ⟨c, cs, -, -, hcs⟩ := h.exists_cons parts
  intro hempty
  rw [hempty] at hcs
  simp at hcs

theorem startsWith_dotted : startsWith (dotted first parts) "<" = false := by
  obtain ⟨c, cs, -, hc, hcs⟩ := h.exists_cons parts
  unfold startsWith
  rw [hcs]
  simpa [List.isPrefixOf] using hc.symm

/-- A qualified name is not a relative one. -/
theorem dropLeading_dotted : dropLeading '.' (dotted first parts) = dotted first parts := by
  obtain ⟨c, cs, hmem, -, hcs⟩ := h.exists_cons parts
  have hc : ¬ c = '.' := by
    rintro rfl
    exact h.undotted hmem
  unfold dropLeading
  rw [hcs, List.dropWhile_cons_of_neg (by simpa using hc), ← hcs, String.ofList_toList]

end StartsPath

end Text

theorem Expr.along_concat (first : String) (parts : List String) (part : String) :
    along first (parts ++ [part]) = .member (along first parts) (some part) := by
  unfold along
  rw [List.foldl_append]
  rfl

namespace Store

/-- A member is known to be a module, or the module it belongs to lists it. -/
def Listed (ctx : Context) (owner part : String) : Prop :=
  (ctx.moduleMembers (owner ++ "." ++ part)).isSome = true ∨
    part ∈ (ctx.moduleMembers owner).getD []

/-- Each part of a qualified name after the first is listed where it stands. -/
def Reached (ctx : Context) (first : String) (parts : List String) : Prop :=
  ∀ before part, before ++ [part] <+: parts → Listed ctx (Text.dotted first before) part

variable {st : Store} {s : ScopeId} {ctx : Context} {first : String}

theorem reached_nil : Reached ctx first [] := by
  intro before part h
  simp at h

theorem reached_concat_iff {parts : List String} {part : String} :
    Reached ctx first (parts ++ [part]) ↔
      Reached ctx first parts ∧ Listed ctx (Text.dotted first parts) part := by
  constructor
  · intro h
    exact ⟨fun before q hq => h before q (List.prefix_append_of_prefix hq),
      h parts part (List.prefix_refl _)⟩
  · rintro ⟨hparts, hpart⟩ before q hq
    rcases List.prefix_concat_iff.mp hq with heq | hq
    · obtain ⟨rfl, hpq⟩ := List.append_inj' heq rfl
      rw [List.singleton_inj.mp hpq]
      exact hpart
    · exact hparts before q hq

/-! ### Imports -/

/-- A name is found where it was just imported, unless it is a variable there. -/
theorem find_bindImport_self (hs : st.HasScope s) (name : Label) (d : Descriptor) :
    (st.bindImport s name d).find s name = .held (((st.scope s).vars.get? name).getD d) := by
  have hlookup : ((st.bindImport s name d).scope s).lookup? name =
      some (((st.scope s).vars.get? name).getD d) := by
    rw [ScopeInfo.lookup?, vars_bindImport, imports_bindImport_self st name d hs,
      Bindings.get?_bind]
    cases (st.scope s).vars.get? name <;> simp
  apply find_of_binding?
  unfold binding? chain
  obtain ⟨n, hn⟩ := Nat.exists_eq_succ_of_ne_zero (Nat.ne_of_gt (Nat.zero_lt_of_lt hs))
  rw [length_scopes_bindImport, hn, Nat.succ_eq_add_one, chainFrom, List.findSome?_cons, hlookup]

/-! ### One member -/

/-- A member of something imported that the host does not know. -/
theorem memberOf_static (st : Store) (s : ScopeId) {owner : String} (part : String)
    (hne : owner ≠ "") (hunmarked : Text.startsWith owner "<" = false)
    (hhost : (st.scope s).context.reflect owner = none) :
    ((Listed (st.scope s).context owner part ∨
        ((st.scope s).context.reflect (owner ++ "." ++ part)).isSome = true) →
      st.memberOf s (.held (.static owner)) (some part) =
        .held (.static (owner ++ "." ++ part))) ∧
    (¬ Listed (st.scope s).context owner part →
        (st.scope s).context.reflect (owner ++ "." ++ part) = none →
      st.memberOf s (.held (.static owner)) (some part) = .unknown) := by
  have hmember : st.memberOf s (.held (.static owner)) (some part) =
      qualified (st.scope s).context (.held (.static owner)) owner part := by
    simp [memberOf, valueType, typeName, hne, hostMemberType?, hhost, classBehind?, ancestorOf?]
  rw [hmember]
  unfold qualified Listed
  simp only [hunmarked, Bool.false_eq_true, ↓reduceIte, Bool.or_eq_true]
  constructor
  · rintro ((hmodule | hlisted) | hreflect)
    · simp [hmodule]
    · simp [hlisted]
    · simp [hreflect]
  · intro hlisted hreflect
    rw [not_or] at hlisted
    simp [hlisted.1, hlisted.2, hreflect]

/-- Nothing is known about a member of something of which nothing is known. -/
theorem memberOf_unknown (label : Label) : st.memberOf s .unknown label = .unknown := rfl

/-! ### All members in turn -/

section Along

variable (hfirst : Text.StartsPath first)
  (hfound : st.find s (some first) = .held (.static first))

include hfirst hfound

/-- From an imported name, an expression gets as far as the parts are listed. -/
theorem infer_along (parts : List String)
    (hhost : ∀ before, before <+: parts →
      (st.scope s).context.reflect (Text.dotted first before) = none) :
    (Reached (st.scope s).context first parts →
      st.infer s (Expr.along first parts) = some (.held (.static (Text.dotted first parts)))) ∧
    (¬ Reached (st.scope s).context first parts →
      st.infer s (Expr.along first parts) = some .unknown) := by
  induction parts using List.reverseRecOn with
  | nil =>
    exact ⟨fun _ => congrArg some hfound, fun h => absurd reached_nil h⟩
  | append_singleton parts part ih =>
    obtain ⟨hreach, hmiss⟩ :=
      ih fun before hbefore => hhost before (List.prefix_append_of_prefix hbefore)
    have hstep := memberOf_static st s part (hfirst.dotted_ne_empty parts)
      (hfirst.startsWith_dotted parts) (hhost parts (List.prefix_append ..))
    have hwhole := hhost (parts ++ [part]) (List.prefix_refl _)
    rw [reached_concat_iff, Expr.along_concat, infer, Text.dotted_concat]
    rw [Text.dotted_concat] at hwhole
    constructor
    · rintro ⟨hparts, hpart⟩
      rw [hreach hparts, Option.map_some, hstep.1 (.inl hpart)]
    · intro hnot
      by_cases hparts : Reached (st.scope s).context first parts
      · rw [hreach hparts, Option.map_some, hstep.2 (fun hpart => hnot ⟨hparts, hpart⟩) hwhole]
      · rw [hmiss hparts, Option.map_some, memberOf_unknown]

/-- The last step also reaches what the host knows. -/
theorem infer_along_concat (parts : List String) (last : String)
    (hhost : ∀ before, before <+: parts →
      (st.scope s).context.reflect (Text.dotted first before) = none)
    (hlast : ((st.scope s).context.reflect (Text.dotted first (parts ++ [last]))).isSome = true ∨
      last ∈ ((st.scope s).context.moduleMembers (Text.dotted first parts)).getD []) :
    (Reached (st.scope s).context first parts →
      st.infer s (Expr.along first (parts ++ [last])) =
        some (.held (.static (Text.dotted first (parts ++ [last]))))) ∧
    (¬ Reached (st.scope s).context first parts →
      st.infer s (Expr.along first (parts ++ [last])) = some .unknown) := by
  obtain ⟨hreach, hmiss⟩ := infer_along hfirst hfound parts hhost
  have hstep := memberOf_static st s last (hfirst.dotted_ne_empty parts)
    (hfirst.startsWith_dotted parts) (hhost parts (List.prefix_refl _))
  rw [Text.dotted_concat] at hlast ⊢
  rw [Expr.along_concat, infer]
  constructor
  · intro hparts
    have hknown : Listed (st.scope s).context (Text.dotted first parts) last ∨
        ((st.scope s).context.reflect (Text.dotted first parts ++ "." ++ last)).isSome = true := by
      rcases hlast with hlast | hlast
      · exact .inr hlast
      · exact .inl (.inr hlast)
    rw [hreach hparts, Option.map_some, hstep.1 hknown]
  · intro hparts
    rw [hmiss hparts, Option.map_some, memberOf_unknown]

end Along

/-! ### Both ways -/

/-- **The two ways to a qualified name.**  Take something that the host knows, or that a module
lists, under a qualified name of which the host knows no shorter part.  After the import of the
qualified name, the expression leads to it if each package on the way is listed, and else nowhere;
after the import from its package, its last part leads to it, unless that is a variable of the scope.
-/
theorem infer_qualified (st : Store) (s : ScopeId) (hs : st.HasScope s) (first last : String)
    (middle : List String) (hfirst : Text.StartsPath first)
    (hvar : (st.scope s).vars.get? (some first) = none)
    (hhost : ∀ before, before <+: middle →
      (st.scope s).context.reflect (Text.dotted first before) = none)
    (hlast : ((st.scope s).context.reflect (Text.dotted first (middle ++ [last]))).isSome = true ∨
      last ∈ ((st.scope s).context.moduleMembers (Text.dotted first middle)).getD []) :
    (∃ imported,
      walkStmt s (.importNames [.plain (some (Text.dotted first (middle ++ [last])))]) st =
        .done imported ∧
      (Reached (st.scope s).context first middle →
        imported.infer s (Expr.along first (middle ++ [last])) =
          some (.held (.static (Text.dotted first (middle ++ [last]))))) ∧
      (¬ Reached (st.scope s).context first middle →
        imported.infer s (Expr.along first (middle ++ [last])) = some .unknown)) ∧
    (∃ imported,
      walkStmt s (.importFrom (some (some (Text.dotted first middle))) false [.plain (some last)])
        st = .done imported ∧
      imported.infer s (.name (some last)) =
        some (.held (((st.scope s).vars.get? (some last)).getD
          (.static (Text.dotted first (middle ++ [last])))))) := by
  constructor
  · refine ⟨st.bindImport s (some first) (.static first), ?_, ?_⟩
    · rw [walkStmt, eachInTurn, importName, hfirst.before_dotted]
      rfl
    · have hfound := find_bindImport_self hs (some first) (.static first)
      rw [hvar, Option.getD_none] at hfound
      have halong := infer_along_concat hfirst hfound middle last
      rw [context_bindImport] at halong
      exact halong hhost hlast
  · refine ⟨st.bindImport s (some last) (.static (Text.dotted first (middle ++ [last]))), ?_, ?_⟩
    · have hqualify : qualify (Text.dotted first middle) last =
          Text.dotted first (middle ++ [last]) := by
        unfold qualify
        rw [Text.dotted_concat, ite_cond_eq_false _ _ (eq_false (hfirst.dotted_ne_empty middle))]
      rw [walkStmt]
      simp only [hfirst.dropLeading_dotted, Bool.false_eq_true, ↓reduceIte]
      rw [eachInTurn, importFrom, hqualify]
      rfl
    · exact congrArg some (find_bindImport_self hs _ _)

/-- A host with one class, whose packages no module lists; and modules of which each lists the next.
-/
def packagesContext : Context where
  reflection name := if name = "java.util.ArrayList" then .ok [] else .error .unknown
  modules name :=
    if name = "os" then .ok (some ["path"])
    else if name = "os.path" then .ok (some ["posix"])
    else if name = "os.path.posix" then .ok (some ["join"])
    else .error .unknown

theorem infer_qualified_modules :
    let a := Analysis.empty packagesContext
    Reached packagesContext "os" ["path", "posix"] ∧
    ∃ imported,
      walkStmt a.root (.importNames [.plain (some "os.path.posix.join")]) a.store =
        .done imported ∧
      imported.infer a.root (Expr.along "os" ["path", "posix", "join"]) =
        some (.held (.static "os.path.posix.join")) := by
  intro a
  have hreached : Reached packagesContext "os" ["path", "posix"] := by
    have hpath : Reached packagesContext "os" ([] ++ ["path"]) :=
      reached_concat_iff.mpr ⟨reached_nil, .inr (by decide +kernel)⟩
    have hposix : Reached packagesContext "os" (["path"] ++ ["posix"]) :=
      reached_concat_iff.mpr ⟨hpath, .inr (by decide +kernel)⟩
    exact hposix
  have hhost : ∀ before, before <+: ["path", "posix"] →
      packagesContext.reflect (Text.dotted "os" before) = none := by
    simp only [← List.mem_inits]
    decide +kernel
  obtain ⟨⟨imported, hwalk, hreach, -⟩, -⟩ := infer_qualified a.store a.root (by decide +kernel)
    "os" "join" ["path", "posix"] ⟨by decide, by decide, by decide +kernel⟩ (by decide +kernel)
    hhost (.inr (by decide +kernel))
  exact ⟨hreached, imported, hwalk, hreach hreached⟩

/-- After the import of a host class under its qualified name, an expression that goes through two
packages does not lead to it. -/
theorem not_infer_qualified_packages :
    ¬ ∀ (ctx : Context) (first last : String) (middle : List String), Text.StartsPath first →
      (∀ before, before <+: middle → ctx.reflect (Text.dotted first before) = none) →
      (ctx.reflect (Text.dotted first (middle ++ [last]))).isSome = true →
      (Analysis.ofStatements ctx
        [.importNames [.plain (some (Text.dotted first (middle ++ [last])))]]).store.infer
          (Analysis.empty ctx).root (Expr.along first (middle ++ [last])) =
        some (.held (.static (Text.dotted first (middle ++ [last])))) := by
  intro h
  have hhost : ∀ before, before <+: ["util"] →
      packagesContext.reflect (Text.dotted "java" before) = none := by
    simp only [← List.mem_inits]
    decide +kernel
  have hinfer := h packagesContext "java" "ArrayList" ["util"]
    ⟨by decide, by decide, by decide +kernel⟩ hhost (by decide +kernel)
  revert hinfer
  decide +kernel

end Store

end ScriptScope
