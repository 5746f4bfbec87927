import Mathlib.Data.List.TakeWhile
import ScriptScope.Completion.Service
import ScriptScope.Proofs.Queries

/-!
# Completing names

Which names can be typed in a scope is answered in three ways: by the list of names that start with
a text, by the same list with a type for each name, and by the sorted list that is offered to the
user.  Looking a single name up is a fourth way to ask about the same tables.

All four agree (`visible_names`).  They read the bindings in sight as one table, innermost first, in
which a lookup finds the first binding of a name (`get?_bindingsInSight`), and of which the lists
keep the first binding of each name; a builtin name comes after all bindings.
-/

namespace ScriptScope

/-! ### Parts of a text -/

namespace Text

/-- What follows a beginning. -/
theorem after?_eq_some_iff {beginning text rest : String} :
    after? beginning text = some rest ↔ text = beginning ++ rest := by
  unfold after?
  rw [Option.map_eq_some_iff]
  constructor
  · rintro ⟨cs, hcs, rfl⟩
    rw [List.isPrefixOf?_eq_some_iff_append_eq] at hcs
    rw [← String.toList_inj, String.toList_append, String.toList_ofList, hcs]
  · rintro rfl
    refine ⟨rest.toList, ?_, String.ofList_toList⟩
    rw [List.isPrefixOf?_eq_some_iff_append_eq, String.toList_append]

theorem startsWith_iff {text beginning : String} :
    startsWith text beginning = true ↔ beginning.toList <+: text.toList :=
  List.isPrefixOf_iff_prefix

/-- The first piece of a list that is cut at a separator: it does not contain the separator, and it
is all there is or is followed by the separator. -/
theorem takeWhile_ne_eq_iff {c : Char} {cs piece : List Char} :
    cs.takeWhile (· ≠ c) = piece ↔ c ∉ piece ∧ (cs = piece ∨ ∃ more, cs = piece ++ c :: more) := by
  constructor
  · rintro rfl
    refine ⟨fun h => by simpa using List.mem_takeWhile_imp h, ?_⟩
    have hsplit : cs = cs.takeWhile (· ≠ c) ++ cs.dropWhile (· ≠ c) :=
      List.takeWhile_append_dropWhile.symm
    cases hrest : cs.dropWhile (· ≠ c) with
    | nil =>
      rw [hrest, List.append_nil] at hsplit
      exact .inl hsplit
    | cons d more =>
      have hd : d = c := by
        have hhead := List.head?_dropWhile_not (fun d => decide (d ≠ c)) cs
        rw [hrest] at hhead
        simpa using hhead
      rw [hrest, hd] at hsplit
      exact .inr ⟨more, hsplit⟩
  · rintro ⟨hpiece, hcs⟩
    have hall : ∀ d ∈ piece, decide (d ≠ c) = true := by
      intro d hd
      rw [decide_eq_true_eq]
      rintro rfl
      exact hpiece hd
    rcases hcs with rfl | ⟨more, rfl⟩
    · exact List.takeWhile_eq_self_iff.mpr hall
    · rw [List.takeWhile_append_of_pos hall, List.takeWhile_cons_of_neg (by simp), List.append_nil]

/-- The part of a text before its first dot. -/
theorem before_dot_eq_iff {text name : String} :
    before '.' text = name ↔
      '.' ∉ name.toList ∧ (text = name ∨ ∃ more, text = name ++ "." ++ more) := by
  have hlist : before '.' text = name ↔ text.toList.takeWhile (· ≠ '.') = name.toList := by
    unfold before
    rw [← String.toList_inj, String.toList_ofList]
  rw [hlist, takeWhile_ne_eq_iff, String.toList_inj]
  refine and_congr_right fun _ => or_congr Iff.rfl ?_
  constructor
  · rintro ⟨more, h⟩
    refine ⟨String.ofList more, ?_⟩
    rw [← String.toList_inj, h]
    simp
  · rintro ⟨more, rfl⟩
    exact ⟨more.toList, by simp⟩

end Text

/-! ### Tables of names -/

section FirstOccurrences

variable {α : Type} {β : Type} [DecidableEq β]

/-- The keys of the first occurrences are the first occurrences of the keys. -/
theorem map_firstByFrom (key : α → β) (seen : List β) (xs : List α) :
    (firstByFrom key seen xs).map key = firstByFrom id seen (xs.map key) := by
  induction xs generalizing seen with
  | nil => rfl
  | cons a rest ih =>
    rw [List.map_cons, firstByFrom_cons, firstByFrom_cons, id_eq]
    split
    · exact ih seen
    · rw [List.map_cons, ih]

end FirstOccurrences

namespace Bindings

/-- Behind one another, tables bind a name as the first one does that binds it. -/
theorem get?_flatMap {α : Type} (tables : α → Bindings) (xs : List α) (name : Label) :
    get? (xs.flatMap tables) name = xs.findSome? (fun x => get? (tables x) name) := by
  induction xs with
  | nil => rfl
  | cons x rest ih =>
    rw [List.flatMap_cons, get?_append, ih, List.findSome?_cons]
    cases get? (tables x) name <;> rfl

/-- A table whose bindings have names, written with the names. -/
def lift (table : List (String × Descriptor)) : Bindings :=
  table.map (fun b => (some b.1, b.2))

theorem names_lift (table : List (String × Descriptor)) :
    (lift table).names = table.map (fun b => some b.1) := by
  unfold lift names
  rw [List.map_map]
  rfl

theorem get?_lift (table : List (String × Descriptor)) (name : String) :
    (lift table).get? (some name) = (table.find? (fun b => b.1 == name)).map (·.2) := by
  unfold lift get?
  rw [List.find?_map, Option.map_map]
  rfl

end Bindings

namespace Store

theorem named?_eq_some_iff {table : Bindings} {named : List (String × Descriptor)} :
    named? table = some named ↔ table = Bindings.lift named := by
  unfold named?
  rw [mapM_eq_some_iff]
  constructor
  · intro h
    induction h with
    | nil => rfl
    | @cons b c table named hb _ ih =>
      obtain ⟨label, d⟩ := b
      obtain ⟨name, rfl, rfl⟩ := Option.map_eq_some_iff.mp hb
      rw [ih]
      rfl
  · rintro rfl
    induction named with
    | nil => exact .nil
    | cons b rest ih => exact .cons rfl ih

/-! ### Names in sight -/

/-- A name that some scope on the way out binds. -/
def BoundInSight (st : Store) (s : ScopeId) (name : String) : Prop :=
  ∃ t ∈ st.chain s, some name ∈ (st.scope t).vars.names ∨ some name ∈ (st.scope t).imports.names

/-- The first component of a builtin symbol: the symbol is `module.name` or `module.name.more`. -/
def IsBuiltinName (ctx : Context) (name : String) : Prop :=
  name ≠ "" ∧ '.' ∉ name.toList ∧ ∃ entry ∈ ctx.builtinEntries,
    entry = ctx.builtinModule ++ "." ++ name ∨
      ∃ more, entry = ctx.builtinModule ++ "." ++ name ++ "." ++ more

/-- A name that can be seen from a scope. -/
def Visible (st : Store) (s : ScopeId) (name : String) : Prop :=
  st.BoundInSight s name ∨ IsBuiltinName (st.scope s).context name

/-- All bindings on the way out have names. -/
def NamedInSight (st : Store) (s : ScopeId) : Prop :=
  ∀ t ∈ st.chain s, ∀ b ∈ (st.scope t).vars ++ (st.scope t).imports, b.1.isSome = true

variable {st : Store} {s : ScopeId} {named : List (String × Descriptor)}

/-- A lookup finds the first of the bindings in sight. -/
theorem get?_bindingsInSight (st : Store) (s : ScopeId) (name : Label) :
    (st.bindingsInSight s).get? name = st.binding? s name := by
  unfold bindingsInSight binding?
  rw [Bindings.get?_flatMap]
  congr 1
  funext t
  rw [Bindings.get?_append, ScopeInfo.lookup?, Option.orElse_eq_orElse, Option.orElse_eq_or]

theorem NamedInSight.exists_named (h : st.NamedInSight s) :
    ∃ named, st.bindingsInSight s = Bindings.lift named := by
  have hall : ∀ b ∈ st.bindingsInSight s, b.1.isSome = true := by
    intro b hb
    obtain ⟨t, ht, hb⟩ := List.mem_flatMap.mp hb
    exact h t ht b hb
  obtain ⟨named, hnamed⟩ := Option.isSome_iff_exists.mp (isSome_named?_iff.mpr hall)
  exact ⟨named, named?_eq_some_iff.mp hnamed⟩

theorem boundInSight_iff (hnamed : st.bindingsInSight s = Bindings.lift named) {name : String} :
    st.BoundInSight s name ↔ name ∈ named.map (·.1) := by
  have hnames : some name ∈ (st.bindingsInSight s).names ↔ name ∈ named.map (·.1) := by
    rw [hnamed, Bindings.names_lift]
    simp
  rw [← hnames]
  unfold BoundInSight bindingsInSight Bindings.names
  rw [List.map_flatMap, List.mem_flatMap]
  simp only [List.map_append, List.mem_append]

theorem mem_builtinNames_iff {name : String} :
    name ∈ st.builtinNames s ↔ IsBuiltinName (st.scope s).context name := by
  unfold builtinNames IsBuiltinName
  simp only [List.mem_filterMap, Option.ite_none_left_eq_some, Option.some.injEq,
    Text.after?_eq_some_iff]
  constructor
  · rintro ⟨rest, ⟨entry, hentry, rfl⟩, hne, hname⟩
    obtain ⟨hdot, hrest⟩ := Text.before_dot_eq_iff.mp hname
    rw [hname] at hne
    refine ⟨hne, hdot, _, hentry, ?_⟩
    rcases hrest with rfl | ⟨more, rfl⟩
    · exact .inl rfl
    · exact .inr ⟨more, by simp only [String.append_assoc]⟩
  · rintro ⟨hne, hdot, entry, hentry, hcases⟩
    have hrest : ∃ rest, entry = (st.scope s).context.builtinModule ++ "." ++ rest ∧
        Text.before '.' rest = name := by
      rcases hcases with rfl | ⟨more, rfl⟩
      · exact ⟨name, rfl, Text.before_dot_eq_iff.mpr ⟨hdot, .inl rfl⟩⟩
      · refine ⟨name ++ "." ++ more, by simp only [String.append_assoc], ?_⟩
        exact Text.before_dot_eq_iff.mpr ⟨hdot, .inr ⟨more, rfl⟩⟩
    obtain ⟨rest, hentry', hname⟩ := hrest
    exact ⟨rest, ⟨entry, hentry, hentry'⟩, by rwa [hname], hname⟩

/-- A name without a dot of which something is known can be seen. -/
theorem visible_of_find_ne_unknown {name : String} (hne : name ≠ "") (hdot : '.' ∉ name.toList)
    (h : st.find s (some name) ≠ .unknown) : st.Visible s name := by
  unfold find at h
  cases hbinding : st.binding? s (some name) with
  | some d =>
    obtain ⟨t, ht, hlookup⟩ := List.exists_of_findSome?_eq_some hbinding
    rw [ScopeInfo.lookup?, Option.orElse_eq_orElse, Option.orElse_eq_or,
      Option.or_eq_some_iff] at hlookup
    refine .inl ⟨t, ht, ?_⟩
    rcases hlookup with hget | ⟨-, hget⟩
    · exact .inl (List.mem_map_of_mem (Bindings.mem_of_get? hget))
    · exact .inr (List.mem_map_of_mem (Bindings.mem_of_get? hget))
  | none =>
    rw [hbinding] at h
    cases hbuiltin : st.builtin? s name with
    | none => simp [hbuiltin] at h
    -- a class was made up, so a symbol lists a member for the name
    | some info =>
      unfold builtin? at hbuiltin
      simp only [Option.ite_none_left_eq_some] at hbuiltin
      obtain ⟨member, hmember⟩ := List.exists_mem_of_ne_nil _ (by simpa using hbuiltin.1)
      obtain ⟨entry, hentry, hafter⟩ := List.mem_filterMap.mp hmember
      rw [Text.after?_eq_some_iff] at hafter
      exact .inr ⟨hne, hdot, entry, hentry, .inr ⟨member, hafter⟩⟩

/-! ### The lists of names -/

/-- All names in sight with their types, innermost first and builtin names last. -/
def typedInSight (st : Store) (s : ScopeId) (named : List (String × Descriptor)) :
    List (String × Option String) :=
  named.map (fun b => (b.1, st.typeName b.2)) ++ (st.builtinNames s).map (·, none)

theorem names_typedInSight :
    (st.typedInSight s named).map (·.1) = named.map (·.1) ++ st.builtinNames s := by
  unfold typedInSight
  simp [Function.comp_def]

section Named

variable (hnamed : st.bindingsInSight s = Bindings.lift named)

include hnamed

theorem typedNamesStartingWith_eq (start : String) : st.typedNamesStartingWith s start =
    some (firstBy (·.1)
      ((st.typedInSight s named).filter (fun entry => Text.startsWith entry.1 start))) := by
  unfold typedNamesStartingWith
  rw [named?_eq_some_iff.mpr hnamed]
  rfl

/-- The two lists hold the same names in the same order. -/
theorem namesStartingWith_eq (start : String) : st.namesStartingWith s start =
    some ((firstBy (·.1)
      ((st.typedInSight s named).filter (fun entry => Text.startsWith entry.1 start))).map
        (·.1)) := by
  unfold namesStartingWith
  rw [named?_eq_some_iff.mpr hnamed, Option.map_some, firstBy, firstBy, map_firstByFrom,
    ← names_typedInSight, List.filter_map]
  rfl

theorem mem_names_typedInSight_iff {name : String} :
    name ∈ (st.typedInSight s named).map (·.1) ↔ st.Visible s name := by
  rw [names_typedInSight, List.mem_append, mem_builtinNames_iff]
  exact or_congr (boundInSight_iff hnamed).symm Iff.rfl

/-- What stands first for a name that is bound is what a lookup finds. -/
theorem find?_typedInSight_of_bound {name : String} (h : st.BoundInSight s name) :
    (st.typedInSight s named).find? (fun entry => entry.1 == name) =
      some (name, st.valueType (st.find s (some name))) := by
  obtain ⟨b, hb, hname⟩ : ∃ b, named.find? (fun b => b.1 == name) = some b ∧ b.1 = name := by
    obtain ⟨b, hb, hbn⟩ := List.mem_map.mp ((boundInSight_iff hnamed).mp h)
    have hsome : (named.find? (fun b => b.1 == name)).isSome = true := by
      rw [List.find?_isSome]
      exact ⟨b, hb, by simpa using hbn⟩
    obtain ⟨c, hc⟩ := Option.isSome_iff_exists.mp hsome
    exact ⟨c, hc, by simpa using List.find?_some hc⟩
  have hbinding : st.binding? s (some name) = some b.2 := by
    rw [← get?_bindingsInSight, hnamed, Bindings.get?_lift, hb]
    rfl
  unfold typedInSight
  rw [find_of_binding? hbinding, List.find?_append, List.find?_map]
  have hfind : named.find? ((fun entry : String × Option String => entry.1 == name) ∘
      fun b => (b.1, st.typeName b.2)) = some b := hb
  rw [hfind, Option.map_some, Option.some_or, hname]
  rfl

/-- A name that is not bound has no type. -/
theorem snd_eq_none_of_not_bound {entry : String × Option String}
    (hentry : entry ∈ st.typedInSight s named) (h : ¬ st.BoundInSight s entry.1) :
    entry.2 = none := by
  unfold typedInSight at hentry
  rw [List.mem_append] at hentry
  rcases hentry with hentry | hentry
  · obtain ⟨b, hb, rfl⟩ := List.mem_map.mp hentry
    exact absurd ((boundInSight_iff hnamed).mpr (List.mem_map_of_mem hb)) h
  · obtain ⟨name, -, rfl⟩ := List.mem_map.mp hentry
    rfl

/-- A list of typed names gives each name the type that a lookup gives it, if it is bound. -/
theorem type_of_mem_typed {start : String} {entry : String × Option String}
    (hentry : entry ∈ firstBy (·.1)
      ((st.typedInSight s named).filter (fun entry => Text.startsWith entry.1 start))) :
    (st.BoundInSight s entry.1 → entry.2 = st.valueType (st.find s (some entry.1))) ∧
      (¬ st.BoundInSight s entry.1 → entry.2 = none) := by
  have hmem := List.mem_filter.mp (mem_of_mem_firstByFrom _ _ _ _ hentry)
  refine ⟨fun hbound => ?_, snd_eq_none_of_not_bound hnamed hmem.1⟩
  -- the entry is the first one of its name in the whole list
  have hfirst := find?_key_of_mem Prod.fst (nodup_firstBy_keys _ _) hentry
  rw [find?_firstBy, List.find?_filter] at hfirst
  have hcongr : (fun a : String × Option String =>
      decide (Text.startsWith a.1 start = true ∧ (a.1 == entry.1) = true)) =
        fun a => a.1 == entry.1 := by
    funext a
    by_cases ha : a.1 = entry.1
    · simp [ha, hmem.2]
    · simp [ha]
  have hfind := find?_typedInSight_of_bound hnamed hbound
  rw [← hcongr] at hfind
  have hpair := hfirst.symm.trans hfind
  exact congrArg Prod.snd (Option.some.inj hpair)

/-- Two lists of the names that start with a text, one of them with types, hold the names that can
be seen, each once, with the types that a lookup gives. -/
structure Lists (st : Store) (s : ScopeId) (start : String) (names : List String)
    (typed : List (String × Option String)) : Prop where
  nodup : names.Nodup
  same : typed.map (·.1) = names
  mem_iff : ∀ name, name ∈ names ↔ st.Visible s name ∧ start.toList <+: name.toList
  bound : ∀ entry ∈ typed, st.BoundInSight s entry.1 →
    entry.2 = st.valueType (st.find s (some entry.1))
  free : ∀ entry ∈ typed, ¬ st.BoundInSight s entry.1 → entry.2 = none

theorem lists_startingWith (start : String) :
    ∃ names typed, st.namesStartingWith s start = some names ∧
      st.typedNamesStartingWith s start = some typed ∧ st.Lists s start names typed := by
  refine ⟨_, _, namesStartingWith_eq hnamed start, typedNamesStartingWith_eq hnamed start,
    nodup_firstBy_keys _ _, rfl, ?_, fun _ h => (type_of_mem_typed hnamed h).1,
    fun _ h => (type_of_mem_typed hnamed h).2⟩
  intro name
  rw [mem_firstBy_keys, ← mem_names_typedInSight_iff hnamed, ← Text.startsWith_iff]
  constructor
  · intro h
    obtain ⟨entry, hentry, rfl⟩ := List.mem_map.mp h
    obtain ⟨hentry, hstart⟩ := List.mem_filter.mp hentry
    exact ⟨List.mem_map_of_mem hentry, hstart⟩
  · rintro ⟨h, hstart⟩
    obtain ⟨entry, hentry, rfl⟩ := List.mem_map.mp h
    exact List.mem_map_of_mem (List.mem_filter.mpr ⟨hentry, hstart⟩)

end Named

end Store

/-! ### What is offered -/

namespace Completion

/-- Sorting entries by names that are all different puts the names in ascending order. -/
theorem pairwise_lt_mergeSort {α : Type} (entries : List (String × α))
    (hnodup : (entries.map (·.1)).Nodup) :
    ((entries.mergeSort (fun x y => decide (x.1 ≤ y.1))).map (·.1)).Pairwise (· < ·) := by
  have hle : (entries.mergeSort (fun x y => decide (x.1 ≤ y.1))).Pairwise
      (fun x y => decide (x.1 ≤ y.1) = true) := by
    apply List.pairwise_mergeSort
    · intro x y z hxy hyz
      rw [decide_eq_true_eq] at hxy hyz ⊢
      exact String.le_trans hxy hyz
    · intro x y
      rw [Bool.or_eq_true, decide_eq_true_eq, decide_eq_true_eq]
      exact String.le_total x.1 y.1
  have hne : (entries.mergeSort (fun x y => decide (x.1 ≤ y.1))).Pairwise
      (fun x y => x.1 ≠ y.1) := by
    have hperm := (List.mergeSort_perm entries (fun x y => decide (x.1 ≤ y.1))).map (·.1)
    exact List.pairwise_map.mp (hperm.nodup_iff.mpr hnodup)
  rw [List.pairwise_map]
  refine (hle.and hne).imp fun {x y} h => ?_
  rw [decide_eq_true_eq] at h
  by_contra hlt
  exact h.2 (String.le_antisymm h.1 (by rwa [← String.not_le, not_not] at hlt))

/-- A list of choices holds the names that can be seen and start with a text, but for those that
start with the capture name.  Each has the type that a lookup gives if it is bound, and parameters
if it stands for a class. -/
structure Choices (capture : String) (st : Store) (s : ScopeId) (start : String)
    (choices : List NameChoice) : Prop where
  ascending : (choices.map (·.name)).Pairwise (· < ·)
  mem_iff : ∀ name, name ∈ choices.map (·.name) ↔
    (st.Visible s name ∧ start.toList <+: name.toList) ∧ ¬ capture.toList <+: name.toList
  bound : ∀ c ∈ choices, st.BoundInSight s c.name →
    c.typeName = st.valueType (st.find s (some c.name))
  free : ∀ c ∈ choices, ¬ st.BoundInSight s c.name → c.typeName = none
  params : ∀ c ∈ choices, c.params = (st.classOf? (st.find s (some c.name))).map ClassInfo.params

/-- From the list of typed names, the service offers those it does not keep for itself. -/
theorem choices_of_lists (service : Service) {a : Analysis} {start : String} {names : List String}
    {typed : List (String × Option String)}
    (htyped : a.store.typedNamesStartingWith a.last start = some typed)
    (hlists : a.store.Lists a.last start names typed) :
    ∃ choices, service.namesIn a start = some choices ∧
      Choices service.context.captureName a.store a.last start choices := by
  have hnames : ((typed.filter (fun entry =>
      !Text.startsWith entry.1 service.context.captureName)).map (·.1)).Nodup :=
    (List.filter_sublist.map _).nodup (hlists.same ▸ hlists.nodup)
  have hmem : ∀ entry, entry ∈ (typed.filter (fun entry =>
      !Text.startsWith entry.1 service.context.captureName)).mergeSort
        (fun x y => decide (x.1 ≤ y.1)) ↔
      entry ∈ typed ∧ ¬ service.context.captureName.toList <+: entry.1.toList := by
    intro entry
    rw [List.mem_mergeSort, List.mem_filter, Bool.not_eq_true', ← Bool.not_eq_true,
      Text.startsWith_iff]
  unfold Service.namesIn
  rw [htyped, Option.map_some]
  refine ⟨_, rfl, ?_, ?_, ?_, ?_, ?_⟩
  · rw [List.map_map]
    exact pairwise_lt_mergeSort _ hnames
  · intro name
    rw [List.map_map, ← hlists.mem_iff, ← hlists.same, List.mem_map, List.mem_map]
    constructor
    · rintro ⟨entry, hentry, rfl⟩
      exact ⟨⟨entry, ((hmem entry).mp hentry).1, rfl⟩, ((hmem entry).mp hentry).2⟩
    · rintro ⟨⟨entry, hentry, rfl⟩, hcapture⟩
      exact ⟨entry, (hmem entry).mpr ⟨hentry, hcapture⟩, rfl⟩
  · intro c hc hbound
    obtain ⟨entry, hentry, rfl⟩ := List.mem_map.mp hc
    exact hlists.bound entry ((hmem entry).mp hentry).1 hbound
  · intro c hc hbound
    obtain ⟨entry, hentry, rfl⟩ := List.mem_map.mp hc
    exact hlists.free entry ((hmem entry).mp hentry).1 hbound
  · intro c hc
    obtain ⟨entry, -, rfl⟩ := List.mem_map.mp hc
    rfl

/-- **The ways to ask for names agree.**  In a scope from which every binding in sight has a name, the
two lists of the names that start with a text hold exactly the names that can be seen, with the
types that a lookup gives; a name without a dot of which a lookup knows anything is on the list for
each of its beginnings; and where a script ends in the scope, the service offers these names in
ascending order, without those it keeps for itself. -/
theorem visible_names (st : Store) (s : ScopeId) (hnamed : st.NamedInSight s) :
    (∀ start, ∃ names typed, st.namesStartingWith s start = some names ∧
      st.typedNamesStartingWith s start = some typed ∧ st.Lists s start names typed) ∧
    (∀ name start : String, name ≠ "" → '.' ∉ name.toList → st.find s (some name) ≠ .unknown →
      start.toList <+: name.toList →
      ∃ names, st.namesStartingWith s start = some names ∧ name ∈ names) ∧
    (∀ (service : Service) (a : Analysis), a.store = st → a.last = s → ∀ start, ∃ choices,
      service.namesIn a start = some choices ∧
      (∀ source, service.analyse source = a → service.names source start = some choices) ∧
      Choices service.context.captureName st s start choices) := by
  obtain ⟨named, hnamed⟩ := hnamed.exists_named
  refine ⟨Store.lists_startingWith hnamed, ?_, ?_⟩
  · intro name start hne hdot hfind hstart
    obtain ⟨names, typed, hnames, -, hlists⟩ := Store.lists_startingWith hnamed start
    have hvisible := Store.visible_of_find_ne_unknown hne hdot hfind
    exact ⟨names, hnames, (hlists.mem_iff name).mpr ⟨hvisible, hstart⟩⟩
  · rintro service a rfl rfl start
    obtain ⟨names, typed, -, htyped, hlists⟩ := Store.lists_startingWith hnamed start
    obtain ⟨choices, hchoices, hall⟩ := choices_of_lists service htyped hlists
    refine ⟨choices, hchoices, ?_, hall⟩
    rintro source rfl
    exact hchoices

/-- A script whose function hides a module behind a parameter. -/
def shadowingScript : List Stmt :=
  [ .importNames [.plain (some "sys")],
    .classDef "shape" [] [.function "__init__" (some [some "self", some "sides"]) []],
    .function "f" (some [some "sys"])
      [.assign [.mk [.name (some "____GRAB____")] (some (.name (some "sys")))]] ]

/-- A context with two builtin names, of which one has a member. -/
def builtinContext : Context :=
  { builtins := .ok ["__builtin__.str", "__builtin__.str.join", "__builtin__.sum"] }

theorem visible_names_shadowing :
    let a := Analysis.ofStatements builtinContext shadowingScript
    a.store.NamedInSight a.last ∧
    (∃ choices, (Service.mk builtinContext false).namesIn a "s" = some choices ∧
      Choices "____GRAB____" a.store a.last "s" choices) ∧
    a.store.typedNamesStartingWith a.last "s" = some
      [("sys", some "<unknown>"), ("shape", some "shape"), ("str", none), ("sum", none)] := by
  intro a
  have hnamed : a.store.NamedInSight a.last := by
    unfold Store.NamedInSight
    decide +kernel
  obtain ⟨choices, hchoices, -, hall⟩ :=
    (visible_names a.store a.last hnamed).2.2 ⟨builtinContext, false⟩ a rfl rfl "s"
  exact ⟨hnamed, ⟨choices, hchoices, hall⟩, by decide +kernel⟩

end Completion

end ScriptScope
