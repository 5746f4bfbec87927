import ScriptScope.Scope.Lookup

/-!
# The lineage of a class

A class takes members from its own body and from its superclasses, depth first and left to right. A
superclass is known by name only: if the host knows the name it is a host class, and otherwise it is
looked up where the class stands. Superclass names may form any graph, cycles included; every class
of the store is visited once, when the walk first comes to it.

Attributes and their types are read off this one list, and members are listed along it, so that they
agree on the order. A class made up by a lookup is a place of its own each time. A listing of
members may take it for another one and pass it over; a search for an attribute does not. It would
find the same if it did, but for the unfinished body of a class of the same name, since a class that
is made up has no superclasses and elsewhere no body that binds anything.

Main statement: `count_lineageFrom_le_one`, no class of the store is on the list twice.
-/

namespace ScriptScope

/-- A place on the lineage of a class. -/
inductive Ancestor where
  /-- A host class, with the members that reflection reports. -/
  | host (members : List Host.Member)
  /-- A class of the store. -/
  | script (id : ClassId)
  /-- A class made up by a lookup. It has no superclasses. -/
  | made (info : ClassInfo)
  deriving DecidableEq, Repr

namespace Store

/-- The scope from which the superclasses of a class are looked up: the one around its body. -/
def home? (st : Store) (c : ClassInfo) : Option ScopeId :=
  c.scope.map (fun s => (st.scope s).parent.getD s)

/-- The script class that a superclass name stands for. -/
def scriptSuperclass? (st : Store) (c : ClassInfo) (base : String) : Option Ancestor :=
  match (st.home? c).map (fun s => st.find s (some base)) with
  | some (.held (.script id)) => some (.script id)
  | some (.made info) => some (.made info)
  | _ => none

/-- What a superclass name stands for, if anything. -/
def superclass? (ctx : Context) (st : Store) (c : ClassInfo) (base : String) : Option Ancestor :=
  match ctx.reflect base with
  | some members => some (.host members)
  | none => st.scriptSuperclass? c base

/-- The direct superclasses of a class that are known. -/
def superclasses (ctx : Context) (st : Store) (c : ClassInfo) : List Ancestor :=
  c.bases.filterMap (superclass? ctx st c)

/-- The lineage of places yet to be visited, in which the classes of the store that were visited
before are left out. -/
def lineageFrom (ctx : Context) (st : Store) (fresh : List ClassId) : List Ancestor → List Ancestor
  | [] => []
  | .host members :: rest => .host members :: lineageFrom ctx st fresh rest
  | .made info :: rest => .made info :: lineageFrom ctx st fresh rest
  | .script id :: rest =>
    if id ∈ fresh then
      .script id :: lineageFrom ctx st (fresh.erase id) (superclasses ctx st (st.cls id) ++ rest)
    else lineageFrom ctx st fresh rest
termination_by pending => (fresh.length, pending.length)
decreasing_by
  all_goals simp_wf
  all_goals try (apply Prod.Lex.right; omega)
  all_goals
    apply Prod.Lex.left
    have hmem : id ∈ fresh := by assumption
    have := List.length_pos_of_mem hmem
    rw [List.length_erase_of_mem hmem]
    omega

/-- The numbers of all classes of the store. -/
def classIds (st : Store) : List ClassId :=
  (List.range st.classes.length).map ClassId.mk

/-- The places that a class takes members from, itself first. -/
def lineage (ctx : Context) (st : Store) (start : Ancestor) : List Ancestor :=
  lineageFrom ctx st st.classIds [start]

/-- The place at which a value's class stands, if it is one. -/
def ancestorOf? : Value → Option Ancestor
  | .held (.script id) => some (.script id)
  | .made info => some (.made info)
  | _ => none

/-- The binding of a member in the body of a class. A class whose scope is not its own body, such as
a placeholder, has none. -/
def bodyBinding? (st : Store) (c : ClassInfo) (member : Label) : Option Descriptor :=
  c.scope.bind (fun s =>
    if (st.scope s).className = some c.name then (st.scope s).vars.get? member else none)

/-- Only classes that are yet to be visited are visited. -/
theorem mem_of_script_mem_lineageFrom (ctx : Context) (st : Store) (fresh : List ClassId)
    (pending : List Ancestor) (id : ClassId)
    (h : Ancestor.script id ∈ lineageFrom ctx st fresh pending) : id ∈ fresh := by
  fun_induction lineageFrom ctx st fresh pending with
  | case1 => simp at h
  | case2 fresh members rest ih =>
    simp only [List.mem_cons, reduceCtorEq, false_or] at h
    exact ih h
  | case3 fresh info rest ih =>
    simp only [List.mem_cons, reduceCtorEq, false_or] at h
    exact ih h
  | case4 fresh id' rest hmem ih =>
    simp only [List.mem_cons, Ancestor.script.injEq] at h
    rcases h with rfl | h
    · exact hmem
    · exact List.mem_of_mem_erase (ih h)
  | case5 fresh id' rest hmem ih => exact ih h

/-- No class of the store is on a lineage twice. -/
theorem count_lineageFrom_le_one (ctx : Context) (st : Store) (fresh : List ClassId)
    (pending : List Ancestor) (id : ClassId) (hf : fresh.Nodup) :
    (lineageFrom ctx st fresh pending).count (.script id) ≤ 1 := by
  fun_induction lineageFrom ctx st fresh pending with
  | case1 => simp
  | case2 fresh members rest ih => simpa using ih hf
  | case3 fresh info rest ih => simpa using ih hf
  | case4 fresh id' rest hmem ih =>
    have hf' : (fresh.erase id').Nodup := hf.erase _
    by_cases e : id' = id
    · subst e
      have hnot : Ancestor.script id' ∉
          lineageFrom ctx st (fresh.erase id') (superclasses ctx st (st.cls id') ++ rest) := fun h =>
        hf.not_mem_erase (mem_of_script_mem_lineageFrom ctx st _ _ _ h)
      simp [List.count_eq_zero_of_not_mem hnot]
    · simpa [List.count_cons, e] using ih hf'
  | case5 fresh id' rest hmem ih => exact ih hf

end Store

end ScriptScope
