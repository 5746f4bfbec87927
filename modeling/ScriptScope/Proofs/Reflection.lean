import ScriptScope.Host.Catalog
import Mathlib.Data.List.Nodup

/-!
# Reflection on a catalog that grows

A reflection remembers the members that it has listed.  Whatever is registered and asked, and in
whatever order, its answers are those that the present catalog gives: the members of a class are
those that the class and its superclasses declare, from the class upwards, and the list ends before
a class that the catalog does not have or that has come up already (`members_current`).

`Ancestry` says which classes these are, without reference to how they are collected.  What is
remembered agrees with the catalog (`Current`); every request preserves this.
-/

namespace ScriptScope.Host

namespace Catalog

/-! ### Looking up and describing classes -/

theorem get?_put (catalog : Catalog) (className other : String) (spec : ClassSpec) :
    (catalog.put className spec).get? other =
      if other = className then some spec else catalog.get? other := by
  induction catalog with
  | nil =>
    by_cases h : other = className
    · subst h; simp [put, get?]
    · simp [put, get?, h, Ne.symm h]
  | cons e rest ih =>
    unfold put
    by_cases he : e.1 = className
    · subst he
      by_cases h : other = e.1
      · subst h; simp [get?]
      · simp [get?, h, Ne.symm h]
    · by_cases h : e.1 = other
      · subst h; simp [get?, he]
      · simpa [get?, he, h] using ih

/-- A class is described once: one that was described before keeps its place. -/
theorem names_put (catalog : Catalog) (className : String) (spec : ClassSpec) :
    (catalog.put className spec).names =
      if className ∈ catalog.names then catalog.names else catalog.names ++ [className] := by
  induction catalog with
  | nil => rfl
  | cons e rest ih =>
    unfold put
    by_cases he : e.1 = className
    · simp [names, he]
    · have hne : className ≠ e.1 := Ne.symm he
      unfold names at ih ⊢
      by_cases hmem : className ∈ rest.map (·.1)
      · simp [he, ih, hmem]
      · simp [he, hne, ih, hmem]

theorem nodup_names_put {catalog : Catalog} (h : catalog.names.Nodup) (className : String)
    (spec : ClassSpec) : (catalog.put className spec).names.Nodup := by
  rw [names_put]
  split
  · exact h
  · rename_i hnew
    rw [List.nodup_append]
    refine ⟨h, List.nodup_singleton _, fun a ha b hb => ?_⟩
    rw [List.mem_singleton.mp hb]
    exact fun e => hnew (e ▸ ha)

theorem mem_names_of_get? {catalog : Catalog} {className : String} {spec : ClassSpec}
    (h : catalog.get? className = some spec) : className ∈ catalog.names := by
  obtain ⟨e, he, -⟩ := Option.map_eq_some_iff.mp h
  have hname : e.1 = className := by simpa using List.find?_some he
  rw [← hname]
  exact List.mem_map_of_mem (List.mem_of_find?_eq_some he)

/-! ### The classes that members come from -/

/-- The superclass of a class, as far as the catalog describes it. -/
def superclass? (catalog : Catalog) (className : String) : Option String :=
  (catalog.get? className).bind ClassSpec.superclass

/-- The class so many superclasses up. -/
def ancestor? (catalog : Catalog) : Nat → String → Option String
  | 0, className => some className
  | n + 1, className => (catalog.superclass? className).bind (catalog.ancestor? n)

/-- The members that a class of the catalog declares. -/
def declared (catalog : Catalog) (className : String) : List Member :=
  ((catalog.get? className).map (ownMembers className)).getD []

theorem declaring_of_mem_declared {catalog : Catalog} {className : String} {m : Member}
    (h : m ∈ catalog.declared className) : m.declaring = className := by
  unfold declared at h
  cases hspec : catalog.get? className with
  | none => simp [hspec] at h
  | some spec =>
    rw [hspec, Option.map_some, Option.getD_some, ownMembers, List.mem_map] at h
    obtain ⟨_, _, rfl⟩ := h
    rfl

/-- The classes from a class upwards, as far as the catalog has them and up to the first that comes
up again. -/
structure Ancestry (catalog : Catalog) (className : String) (classes : List String) : Prop where
  /-- They are the class, its superclass, and so on. -/
  ascends : ∀ n < classes.length, classes[n]? = catalog.ancestor? n className
  described : ∀ c ∈ classes, (catalog.get? c).isSome = true
  nodup : classes.Nodup
  /-- There is no next one, or the catalog does not have it, or it has come up already. -/
  stops : ∀ c, catalog.ancestor? classes.length className = some c →
    catalog.get? c = none ∨ c ∈ classes

/-- A class comes up at one height only, and where one ancestry ends there is nothing to go on
with. -/
theorem Ancestry.length_le {catalog : Catalog} {className : String} {classes others : List String}
    (h : catalog.Ancestry className classes) (h' : catalog.Ancestry className others) :
    others.length ≤ classes.length := by
  by_contra hlt
  rw [Nat.not_le] at hlt
  obtain ⟨c, hc⟩ : ∃ c, others[classes.length]? = some c := ⟨_, List.getElem?_eq_getElem hlt⟩
  rcases h.stops c ((h'.ascends _ hlt).symm.trans hc) with hnone | hmem
  · have hdescribed := h'.described c (List.mem_of_getElem? hc)
    rw [hnone] at hdescribed
    exact absurd hdescribed (by simp)
  · -- it stands further down in both
    obtain ⟨n, hn⟩ := List.mem_iff_getElem?.mp hmem
    have hlow : n < classes.length := (List.getElem?_eq_some_iff.mp hn).1
    have hn' : n < others.length := Nat.lt_trans hlow hlt
    have hagain : others[n]? = some c :=
      (h'.ascends n hn').trans ((h.ascends n hlow).symm.trans hn)
    exact Nat.ne_of_lt hlow ((List.getElem?_inj hn' h'.nodup).mp (hagain.trans hc.symm))

/-- There is one ancestry of a class. -/
theorem Ancestry.unique {catalog : Catalog} {className : String} {classes others : List String}
    (h : catalog.Ancestry className classes) (h' : catalog.Ancestry className others) :
    others = classes := by
  have hlength : others.length = classes.length :=
    Nat.le_antisymm (h.length_le h') (h'.length_le h)
  refine List.ext_getElem? fun n => ?_
  by_cases hn : n < classes.length
  · rw [h.ascends n hn, h'.ascends n (hlength ▸ hn)]
  · rw [List.getElem?_eq_none (by omega), List.getElem?_eq_none (by omega)]

/-- The classes from a class upwards, as far as they are fresh and the catalog has them. -/
structure Ascent (catalog : Catalog) (fresh : List String) (current : Option String)
    (classes : List String) : Prop where
  ascends : ∀ n < classes.length, classes[n]? = current.bind (catalog.ancestor? n)
  described : ∀ c ∈ classes, (catalog.get? c).isSome = true
  within : ∀ c ∈ classes, c ∈ fresh
  nodup : classes.Nodup
  stops : ∀ c, current.bind (catalog.ancestor? classes.length) = some c →
    catalog.get? c = none ∨ c ∉ fresh ∨ c ∈ classes

variable {catalog : Catalog} {fresh : List String}

theorem Ascent.nil {current : Option String}
    (h : ∀ c, current = some c → catalog.get? c = none ∨ c ∉ fresh) :
    catalog.Ascent fresh current [] := by
  refine ⟨by simp, by simp, by simp, List.nodup_nil, fun c hc => ?_⟩
  obtain ⟨d, hd, hdc⟩ := Option.bind_eq_some_iff.mp hc
  rw [← Option.some.inj hdc]
  exact (h d hd).imp_right .inl

/-- One step up and the classes above. -/
theorem Ascent.cons {className : String} {spec : ClassSpec} {above : List String}
    (hfresh : fresh.Nodup) (hmem : className ∈ fresh) (hspec : catalog.get? className = some spec)
    (h : catalog.Ascent (fresh.erase className) spec.superclass above) :
    catalog.Ascent fresh (some className) (className :: above) := by
  have hstep : ∀ n, (some className).bind (catalog.ancestor? (n + 1)) =
      spec.superclass.bind (catalog.ancestor? n) := by
    intro n
    rw [Option.bind_some, ancestor?, superclass?, hspec, Option.bind_some]
  constructor
  case ascends =>
    intro n hn
    cases n with
    | zero => rfl
    | succ n =>
      rw [List.getElem?_cons_succ, hstep]
      exact h.ascends n (Nat.lt_of_succ_lt_succ hn)
  case described => exact List.forall_mem_cons.mpr ⟨by rw [hspec]; rfl, h.described⟩
  case within =>
    exact List.forall_mem_cons.mpr ⟨hmem, fun c hc => List.mem_of_mem_erase (h.within c hc)⟩
  case nodup =>
    exact List.nodup_cons.mpr ⟨fun hc => hfresh.not_mem_erase (h.within _ hc), h.nodup⟩
  case stops =>
    intro c hc
    rw [List.length_cons, hstep] at hc
    rcases h.stops c hc with hnone | hnot | habove
    · exact .inl hnone
    · -- not fresh above: not fresh at all, or the class that was just passed
      rw [hfresh.mem_erase_iff, not_and_or, not_not] at hnot
      rcases hnot with rfl | hnot
      · exact .inr (.inr (List.mem_cons_self ..))
      · exact .inr (.inl hnot)
    · exact .inr (.inr (List.mem_cons_of_mem _ habove))

/-- Collecting members goes up through fresh classes as far as there are any. -/
theorem exists_ascent (catalog : Catalog) (hfresh : fresh.Nodup) (current : Option String) :
    ∃ classes, catalog.Ascent fresh current classes ∧
      catalog.chainMembers fresh current = classes.flatMap catalog.declared := by
  fun_induction chainMembers catalog fresh current with
  | case1 fresh => exact ⟨[], .nil (by simp), rfl⟩
  | case2 fresh className hmem hnone =>
    refine ⟨[], .nil ?_, rfl⟩
    rintro c ⟨⟩
    exact .inl hnone
  | case3 fresh className hmem spec hspec ih =>
    obtain ⟨above, habove, hmembers⟩ := ih (hfresh.erase _)
    refine ⟨className :: above, .cons hfresh hmem hspec habove, ?_⟩
    rw [List.flatMap_cons, hmembers, declared, hspec]
    rfl
  | case4 fresh className hnot =>
    refine ⟨[], .nil ?_, rfl⟩
    rintro c ⟨⟩
    exact .inr hnot

/-- The members of a class are those that its ancestry declares. -/
theorem exists_ancestry (h : catalog.names.Nodup) (className : String) :
    ∃ classes, catalog.Ancestry className classes ∧
      catalog.chainMembers catalog.names (some className) = classes.flatMap catalog.declared := by
  obtain ⟨classes, hascent, hmembers⟩ := exists_ascent catalog h (some className)
  refine ⟨classes, ⟨hascent.ascends, hascent.described, hascent.nodup, fun c hc => ?_⟩, hmembers⟩
  rcases hascent.stops c hc with hnone | hnot | hmem
  · exact .inl hnone
  · -- all classes that the catalog has were fresh at first
    refine .inl (Option.eq_none_iff_forall_ne_some.mpr fun spec hspec => ?_)
    exact hnot (mem_names_of_get? hspec)
  · exact .inr hmem

end Catalog

/-! ### Requests -/

/-- What can be asked of a reflection or told to it. -/
inductive Request where
  | register (className : String) (spec : ClassSpec)
  | members (className : String)

/-- The description that a request gives a class. -/
def Request.describes? (className : String) : Request → Option ClassSpec
  | .register name spec => if name = className then some spec else none
  | .members _ => none

/-- The description of a class after some requests: the last that was given since, or else the one
that was there before. -/
def latest? (catalog : Catalog) (requests : List Request) (className : String) :
    Option ClassSpec :=
  requests.reverse.findSome? (Request.describes? className) <|> catalog.get? className

namespace Reflection

/-- Meets a request. -/
def step (r : Reflection) : Request → Reflection
  | .register className spec => r.register className spec
  | .members className => (r.members className).2

/-- Meets requests in turn. -/
def run (r : Reflection) (requests : List Request) : Reflection :=
  requests.foldl step r

/-- What is remembered is what the catalog gives. -/
structure Current (r : Reflection) : Prop where
  names : r.catalog.names.Nodup
  known : ∀ e ∈ r.known, e.2 = r.catalog.chainMembers r.catalog.names (some e.1)

variable {r : Reflection}

/-- Listing members changes no description. -/
theorem catalog_members (r : Reflection) (className : String) :
    (r.members className).2.catalog = r.catalog := by
  unfold members
  split
  · split <;> rfl
  · rfl

theorem Current.members (h : r.Current) (className : String) :
    (r.members className).2.Current := by
  unfold Reflection.members
  split
  · split
    · exact h
    · refine ⟨h.names, fun e he => ?_⟩
      rcases List.mem_append.mp he with he | he
      · exact h.known e he
      · rw [List.mem_singleton.mp he]
  · exact h

theorem Current.step (h : r.Current) (q : Request) : (r.step q).Current := by
  cases q with
  | register className spec =>
    exact ⟨Catalog.nodup_names_put h.names className spec, by simp [Reflection.step, register]⟩
  | members className => exact h.members className

theorem Current.run (h : r.Current) (requests : List Request) : (r.run requests).Current := by
  induction requests generalizing r with
  | nil => exact h
  | cons q rest ih => exact ih (h.step q)

/-- After requests the catalog has the description of each class that was given last. -/
theorem get?_catalog_run (r : Reflection) (requests : List Request) (className : String) :
    (r.run requests).catalog.get? className = latest? r.catalog requests className := by
  induction requests generalizing r with
  | nil => rfl
  | cons q rest ih =>
    rw [run, List.foldl_cons, ← run, ih]
    unfold latest?
    rw [List.reverse_cons, List.findSome?_append]
    cases rest.reverse.findSome? (Request.describes? className) with
    | some spec => rfl
    | none =>
      cases q with
      | register name spec =>
        show (r.catalog.put name spec).get? className = _
        rw [Catalog.get?_put]
        by_cases h : className = name
        · subst h; simp [Request.describes?]
        · simp [Request.describes?, h, Ne.symm h]
      | members name =>
        show (r.members name).2.catalog.get? className = _
        rw [catalog_members]
        rfl

/-- A class that the catalog has is answered for from the catalog, whether or not it was asked for
before. -/
theorem Current.members_of_get? (h : r.Current) {className : String} {spec : ClassSpec}
    (hspec : r.catalog.get? className = some spec) :
    (r.members className).1 =
      .ok (r.catalog.chainMembers r.catalog.names (some className)) := by
  have hcontains : r.contains className = true := by simp [contains, hspec]
  unfold Reflection.members
  rw [ite_cond_eq_true _ _ (eq_true hcontains)]
  split
  · rename_i name remembered hfind
    have hname : name = className := by simpa using List.find?_some hfind
    have hremembered := h.known _ (List.mem_of_find?_eq_some hfind)
    rw [hname] at hremembered
    exact congrArg Except.ok hremembered
  · rfl

/-- **What a reflection remembers never shows.**  Start from any catalog, with superclasses that may
be missing or lead in a circle, and let classes be registered and members be asked for in any order.
Then the present catalog describes each class as it was described last.  Asking for the members of a
class fails if the catalog does not have it, and changes nothing.  Otherwise the answer lists what
the class and the classes above it declare at present, from the class upwards, each class once and
each member with its class, and ends before a class that the catalog does not have or that has come
up already. -/
theorem members_current {catalog : Catalog} (hcatalog : catalog.names.Nodup)
    (requests : List Request) :
    let present := Reflection.run { catalog } requests
    (∀ className, present.catalog.get? className = latest? catalog requests className) ∧
    ∀ className,
      (present.catalog.get? className = none →
        present.members className = (.error (.hostClassNotFound className), present)) ∧
      ∀ spec, present.catalog.get? className = some spec →
        ∃ classes, (∀ others, present.catalog.Ancestry className others ↔ others = classes) ∧
          (present.members className).1 = .ok (classes.flatMap present.catalog.declared) ∧
          ∀ c ∈ classes, ∀ m ∈ present.catalog.declared c, m.declaring = c := by
  intro present
  have hcurrent : present.Current := Current.run ⟨hcatalog, by simp⟩ requests
  refine ⟨get?_catalog_run { catalog } requests, fun className => ⟨fun hnone => ?_, ?_⟩⟩
  · have hno : present.contains className = false := by simp [contains, hnone]
    simp [members, hno]
  · intro spec hspec
    obtain ⟨classes, hancestry, hmembers⟩ := Catalog.exists_ancestry hcurrent.names className
    refine ⟨classes, fun others => ⟨hancestry.unique, fun h => h ▸ hancestry⟩, ?_,
      fun c _ m hm => Catalog.declaring_of_mem_declared hm⟩
    rw [hcurrent.members_of_get? hspec, hmembers]

/-- The superclass of `A` has a superclass that is missing. -/
def unfinished : Catalog :=
  [ ("A", ⟨some "B", [⟨"run", false, false, none, []⟩]⟩), ("B", ⟨some "C", []⟩) ]

/-- `A` is asked for, and then `B` is described anew, with a member and below `A`. -/
theorem members_current_circular :
    unfinished.names.Nodup ∧
    ((Reflection.run { catalog := unfinished }
        [.members "A", .register "B" ⟨some "A", [⟨"size", true, false, some "int", []⟩]⟩]).members
      "A").1 =
      .ok [ { name := "run", isStatic := false, isField := false, declaring := "A" },
        { name := "size", isStatic := false, isField := true, declaring := "B",
          typeName := some "int" } ] := by
  have hnames : unfinished.names.Nodup := by decide
  obtain ⟨-, h⟩ := members_current hnames
    [.members "A", .register "B" ⟨some "A", [⟨"size", true, false, some "int", []⟩]⟩]
  obtain ⟨classes, hancestry, hanswer, -⟩ := (h "A").2 _ rfl
  have hcircle : ["A", "B"] = classes := by
    refine (hancestry _).mp ⟨by decide, by decide, by decide, ?_⟩
    rintro c ⟨⟩
    exact .inr (by decide)
  refine ⟨hnames, ?_⟩
  rw [hanswer, ← hcircle]
  rfl

end Reflection

end ScriptScope.Host
