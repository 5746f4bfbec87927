import ScriptScope.Proofs.ClassAttributes

/-!
# The order in which attributes are searched

An attribute of a class is searched in the body of the class and then in its superclasses, depth
first and from left to right.  Superclass names may form any graph; a class that the search has come
to before is not searched again.

Which attribute is found does not depend on how the search is run.  A way up from a class is given
by the positions of the superclasses that are passed (`Climb`), and ways are ordered like the words
of a dictionary, so that a class comes before its superclasses, and what lies above one superclass
before what lies above the next.  Among the ways that pass no class twice, the search finds the end
of the first one at which there is an attribute (`findSome?_lineageFrom`).  Leaving out what was
visited loses nothing: a way through a visited class can be replaced by an earlier one, since the
class was come to by an earlier way.

Main statement: `classAttribute?_first`.
-/

namespace ScriptScope

/-! ### Typed members of host classes -/

namespace Host

/-- A method, or a field, of a name and with a known type. -/
structure Member.Types (m : Member) (fields : Bool) (name type : String) : Prop where
  kind : m.isField = fields
  named : m.name = name
  typed : m.typeName = some type
  known : type ≠ ""

/-- The first typed method, or field, of a name has this type. -/
def FirstTyped (fields : Bool) (name : String) (members : List Member) (type : String) : Prop :=
  ∃ before m after, members = before ++ m :: after ∧ m.Types fields name type ∧
    ∀ x ∈ before, ∀ other, ¬ x.Types fields name other

theorem Member.types_iff {m : Member} {fields : Bool} {name type : String} :
    (if m.isField == fields && m.name == name then m.typeName.filter (· ≠ "") else none) =
      some type ↔ m.Types fields name type := by
  rw [Option.ite_none_right_eq_some, Bool.and_eq_true, beq_iff_eq, beq_iff_eq,
    Option.filter_eq_some_iff, decide_eq_true_eq]
  constructor
  · rintro ⟨⟨hkind, hname⟩, htype, hknown⟩
    exact ⟨hkind, hname, htype, hknown⟩
  · rintro ⟨hkind, hname, htype, hknown⟩
    exact ⟨⟨hkind, hname⟩, htype, hknown⟩

theorem typeAmong_eq_none_iff {fields : Bool} {name : String} {members : List Member} :
    typeAmong fields name members = none ↔ ∀ m ∈ members, ∀ type, ¬ m.Types fields name type := by
  unfold typeAmong
  rw [List.findSome?_eq_none_iff]
  simp only [Option.eq_none_iff_forall_ne_some, ne_eq, Member.types_iff]

theorem typeAmong_eq_some_iff {fields : Bool} {name type : String} {members : List Member} :
    typeAmong fields name members = some type ↔ FirstTyped fields name members type := by
  unfold typeAmong FirstTyped
  simp only [List.findSome?_eq_some_iff, Option.eq_none_iff_forall_ne_some, ne_eq,
    Member.types_iff]

end Host

namespace Store

variable {ctx : Context} {st : Store} {name : String}

/-- What a place on a lineage has for a name: a class what its body binds; a host class an instance
of the type of its first typed method of this name, or else of its first typed field. -/
inductive Has (st : Store) (name : String) : Ancestor → Value → Prop
  | body {a : Ancestor} {c : ClassInfo} {d : Descriptor} (class_at : st.classAt? a = some c)
    (bound : st.bodyBinding? c (some name) = some d) : Has st name a (.held d)
  | method {members : List Host.Member} {type : String}
    (first : Host.FirstTyped false name members type) :
    Has st name (.host members) (.ofHostType type)
  | field {members : List Host.Member} {type : String}
    (untyped : ∀ m ∈ members, ∀ other, ¬ m.Types false name other)
    (first : Host.FirstTyped true name members type) :
    Has st name (.host members) (.ofHostType type)

theorem attributeAt?_eq_some_iff {a : Ancestor} {v : Value} :
    st.attributeAt? name a = some v ↔ st.Has name a v := by
  constructor
  · intro h
    have hbody : ∀ c, st.classAt? a = some c → st.Has name a v := by
      intro c hc
      rw [attributeAt?_of_classAt? hc] at h
      obtain ⟨d, hd, rfl⟩ := Option.map_eq_some_iff.mp h
      exact .body hc hd
    cases a with
    | script id => exact hbody _ rfl
    | made info => exact hbody _ rfl
    | host members =>
      obtain ⟨type, htype, rfl⟩ := Option.map_eq_some_iff.mp h
      rw [Host.memberType?, Option.orElse_eq_orElse, Option.orElse_eq_or] at htype
      rcases Option.or_eq_some_iff.mp htype with hmethod | ⟨hnone, hfield⟩
      · exact .method (Host.typeAmong_eq_some_iff.mp hmethod)
      · exact .field (Host.typeAmong_eq_none_iff.mp hnone) (Host.typeAmong_eq_some_iff.mp hfield)
  · intro h
    cases h with
    | body hc hd => rw [attributeAt?_of_classAt? hc, hd, Option.map_some]
    | method first =>
      show (Host.memberType? _ name).map Value.ofHostType = _
      rw [Host.memberType?, Host.typeAmong_eq_some_iff.mpr first]
      rfl
    | field untyped first =>
      show (Host.memberType? _ name).map Value.ofHostType = _
      rw [Host.memberType?, Host.typeAmong_eq_none_iff.mpr untyped,
        Host.typeAmong_eq_some_iff.mpr first]
      rfl

/-- A host class has something for a name exactly if one of its members of this name is typed. -/
theorem exists_has_host_iff {members : List Host.Member} :
    (∃ v, st.Has name (.host members) v) ↔
      ∃ m ∈ members, ∃ fields type, m.Types fields name type := by
  constructor
  · rintro ⟨v, h⟩
    cases h with
    | body hc hd => simp [classAt?] at hc
    | @method _ type first =>
      obtain ⟨before, m, after, rfl, hm, -⟩ := first
      exact ⟨m, by simp, false, type, hm⟩
    | @field _ type untyped first =>
      obtain ⟨before, m, after, rfl, hm, -⟩ := first
      exact ⟨m, by simp, true, type, hm⟩
  · rintro ⟨m, hm, fields, type, htype⟩
    -- without a typed method, the member is a typed field
    cases hmethod : Host.typeAmong false name members with
    | some other => exact ⟨_, .method (Host.typeAmong_eq_some_iff.mp hmethod)⟩
    | none =>
      have huntyped := Host.typeAmong_eq_none_iff.mp hmethod
      cases hfield : Host.typeAmong true name members with
      | some other => exact ⟨_, .field huntyped (Host.typeAmong_eq_some_iff.mp hfield)⟩
      | none =>
        cases fields with
        | false => exact absurd htype (huntyped m hm type)
        | true => exact absurd htype (Host.typeAmong_eq_none_iff.mp hfield m hm type)

/-- A number without a class has nothing. -/
theorem hasClass_of_has {id : ClassId} {v : Value} (h : st.Has name (.script id) v) :
    st.HasClass id := by
  cases h with
  | body hc hd =>
    by_contra hno
    rw [← Option.some.inj hc, cls_of_not_hasClass hno] at hd
    simp [bodyBinding?, default] at hd

/-! ### Ways up -/

/-- A way from a place up to another: for each class of the store that it leaves, the position of
the next place among the known superclasses of this class, together with the classes of the store
that it passes, its ends included. -/
inductive Climb (ctx : Context) (st : Store) :
    Ancestor → List Nat → List ClassId → Ancestor → Prop
  | host (members : List Host.Member) : Climb ctx st (.host members) [] [] (.host members)
  | made (info : ClassInfo) : Climb ctx st (.made info) [] [] (.made info)
  | script (id : ClassId) : Climb ctx st (.script id) [] [id] (.script id)
  | up {id : ClassId} {i : Nat} {b a : Ancestor} {way : List Nat} {passed : List ClassId}
    (known : (superclasses ctx st (st.cls id))[i]? = some b)
    (rest : Climb ctx st b way passed a) : Climb ctx st (.script id) (i :: way) (id :: passed) a

theorem Climb.mem_passed {id : ClassId} {way : List Nat} {passed : List ClassId} {a : Ancestor}
    (h : Climb ctx st (.script id) way passed a) : id ∈ passed := by
  cases h with
  | script => exact List.mem_singleton_self id
  | up known rest => exact List.mem_cons_self ..

/-- A way that passes a class goes on from there. -/
theorem Climb.since {b a : Ancestor} {way : List Nat} {passed : List ClassId}
    (h : Climb ctx st b way passed a) {id : ClassId} (hid : id ∈ passed) :
    ∃ way' passed', Climb ctx st (.script id) way' passed' a ∧ passed' <:+ passed := by
  induction h with
  | host members => simp at hid
  | made info => simp at hid
  | script id' =>
    rw [List.mem_singleton.mp hid]
    exact ⟨_, _, .script id', List.suffix_rfl⟩
  | @up id' i b a way passed known rest ih =>
    rcases List.mem_cons.mp hid with rfl | hid
    · exact ⟨_, _, .up known rest, List.suffix_rfl⟩
    · obtain ⟨way', passed', hclimb, hsuffix⟩ := ih hid
      exact ⟨way', passed', hclimb, hsuffix.trans (List.suffix_cons ..)⟩

/-- A way to something passes no numbers without a class. -/
theorem Climb.hasClass {b a : Ancestor} {way : List Nat} {passed : List ClassId} {v : Value}
    (h : Climb ctx st b way passed a) (hv : st.Has name a v) :
    ∀ id ∈ passed, st.HasClass id := by
  induction h with
  | host members => simp
  | made info => simp
  | script id =>
    intro id' hid'
    rw [List.mem_singleton.mp hid']
    exact hasClass_of_has hv
  | @up id i b a way passed known rest ih =>
    rw [List.forall_mem_cons]
    refine ⟨?_, ih hv⟩
    by_contra hno
    rw [cls_of_not_hasClass hno] at known
    simp [superclasses, default] at known

/-! ### The search -/

/-- A way from one of several places, whose position it begins with.  It passes fresh classes only,
and none of them twice. -/
inductive Route (ctx : Context) (st : Store) (fresh : List ClassId) (pending : List Ancestor) :
    List Nat → Ancestor → Prop
  | mk {i : Nat} {b a : Ancestor} {way : List Nat} {passed : List ClassId}
    (start : pending[i]? = some b) (climb : Climb ctx st b way passed a) (nodup : passed.Nodup)
    (within : ∀ id ∈ passed, id ∈ fresh) : Route ctx st fresh pending (i :: way) a

/-- Of all ways, one that leads to an answer before which no other leads to one. -/
structure First {β : Type} (ways : List Nat → Ancestor → Prop) (f : Ancestor → Option β)
    (way : List Nat) (a : Ancestor) (v : β) : Prop where
  leads : ways way a
  answer : f a = some v
  first : ∀ way' a' v', ways way' a' → f a' = some v' → ¬ List.Lex (· < ·) way' way

section Search

variable {β : Type} {f : Ancestor → Option β} {v : β} {fresh : List ClassId}
  {pending rest : List Ancestor}

/-- One place more in front moves all ways by one. -/
theorem Route.tail {x a : Ancestor} {i : Nat} {way : List Nat}
    (h : Route ctx st fresh (x :: rest) ((i + 1) :: way) a) :
    Route ctx st fresh rest (i :: way) a := by
  cases h with
  | mk start climb nodup within =>
    exact .mk (by simpa using start) climb nodup within

theorem Route.shift {a : Ancestor} {i : Nat} {way : List Nat} (x : Ancestor)
    (h : Route ctx st fresh rest (i :: way) a) :
    Route ctx st fresh (x :: rest) ((i + 1) :: way) a := by
  cases h with
  | mk start climb nodup within =>
    exact .mk (by simpa using start) climb nodup within

/-- A place that has an answer itself is the first. -/
theorem First.here {x : Ancestor} {passed : List ClassId} (hx : Climb ctx st x [] passed x)
    (hnodup : passed.Nodup) (hwithin : ∀ id ∈ passed, id ∈ fresh) (hv : f x = some v) :
    First (Route ctx st fresh (x :: rest)) f [0] x v := by
  refine ⟨.mk rfl hx hnodup hwithin, hv, ?_⟩
  intro way' a' v' hroute _ hlex
  cases hroute with
  | mk start climb nodup within =>
    rw [List.cons_lex_cons_iff] at hlex
    rcases hlex with hlt | ⟨-, hlex⟩
    · exact absurd hlt (Nat.not_lt_zero _)
    · exact List.not_lex_nil hlex

/-- A place that leads to no answer can be passed over. -/
theorem First.skip {x a : Ancestor} {way : List Nat}
    (h : First (Route ctx st fresh rest) f way a v)
    (hx : ∀ way' a' v', Route ctx st fresh (x :: rest) (0 :: way') a' → f a' ≠ some v') :
    ∃ way, First (Route ctx st fresh (x :: rest)) f way a v := by
  obtain ⟨hroute, hv, hfirst⟩ := h
  cases hroute with
  | @mk i b _ way passed start climb nodup within =>
    refine ⟨(i + 1) :: way, (Route.mk start climb nodup within).shift x, hv, ?_⟩
    intro way' a' v' hroute' hv' hlex
    obtain ⟨j, tail, rfl⟩ : ∃ j tail, way' = j :: tail := by
      cases hroute' with
      | mk => exact ⟨_, _, rfl⟩
    cases j with
    | zero => exact hx tail a' v' hroute' hv'
    | succ j =>
      refine hfirst (j :: tail) a' v' hroute'.tail hv' ?_
      rw [List.cons_lex_cons_iff] at hlex ⊢
      exact hlex.imp Nat.lt_of_succ_lt_succ fun ⟨e, h⟩ => ⟨Nat.succ.inj e, h⟩

/-- From a class without an answer of its own, answers are found above its superclasses. -/
theorem Climb.above {id : ClassId} {way : List Nat} {passed : List ClassId} {a : Ancestor}
    (h : Climb ctx st (.script id) way passed a) (hnodup : passed.Nodup)
    (hwithin : ∀ j ∈ passed, j ∈ fresh) (hid : f (.script id) = none) (hv : f a = some v)
    (rest : List Ancestor) :
    ∃ j tail, way = j :: tail ∧ j < (superclasses ctx st (st.cls id)).length ∧
      Route ctx st (fresh.erase id) (superclasses ctx st (st.cls id) ++ rest) (j :: tail) a := by
  cases h with
  | script => rw [hid] at hv; cases hv
  | @up _ j b _ tail passed known climb =>
    rw [List.nodup_cons] at hnodup
    rw [List.forall_mem_cons] at hwithin
    have hlt : j < (superclasses ctx st (st.cls id)).length :=
      (List.getElem?_eq_some_iff.mp known).1
    refine ⟨j, tail, rfl, hlt, .mk ?_ climb hnodup.2 fun k hk => ?_⟩
    · rwa [List.getElem?_append_left hlt]
    · have hne : k ≠ id := fun e => hnodup.1 (e ▸ hk)
      exact (List.mem_erase_of_ne hne).mpr (hwithin.2 k hk)

/-- A class without an answer of its own is followed by its superclasses. -/
theorem First.visit {id : ClassId} {way : List Nat} {a : Ancestor} (hfresh : fresh.Nodup)
    (hmem : id ∈ fresh) (hid : f (.script id) = none)
    (h : First (Route ctx st (fresh.erase id) (superclasses ctx st (st.cls id) ++ rest)) f
      way a v) : ∃ way, First (Route ctx st fresh (.script id :: rest)) f way a v := by
  set supers := superclasses ctx st (st.cls id)
  obtain ⟨hroute, hv, hfirst⟩ := h
  cases hroute with
  | @mk i b _ way passed start climb nodup within =>
    have hold : ∀ j ∈ passed, j ∈ fresh := fun j hj => List.mem_of_mem_erase (within j hj)
    have hnew : id ∉ passed := fun hj => hfresh.not_mem_erase (within id hj)
    by_cases hi : i < supers.length
    -- the answer is above this class: nothing that begins at a later place comes before
    · rw [List.getElem?_append_left hi] at start
      refine ⟨0 :: i :: way, .mk rfl (.up start climb) (List.nodup_cons.mpr ⟨hnew, nodup⟩) ?_,
        hv, ?_⟩
      · rw [List.forall_mem_cons]
        exact ⟨hmem, hold⟩
      · intro way' a' v' hroute' hv' hlex
        cases hroute' with
        | @mk k b' _ way' passed' start' climb' nodup' within' =>
          rw [List.cons_lex_cons_iff] at hlex
          rcases hlex with hlt | ⟨rfl, hlex⟩
          · exact absurd hlt (Nat.not_lt_zero _)
          · rw [← Option.some.inj start'] at climb'
            obtain ⟨j, tail, rfl, -, habove⟩ := climb'.above nodup' within' hid hv' rest
            exact hfirst _ a' v' habove hv' hlex
    -- the answer is above a later place, so there is none above this class
    · have hnone : ∀ way' passed' a' v', Climb ctx st (.script id) way' passed' a' →
          passed'.Nodup → (∀ j ∈ passed', j ∈ fresh) → f a' ≠ some v' := by
        intro way' passed' a' v' climb' nodup' within' hv'
        obtain ⟨j, tail, -, hj, habove⟩ := climb'.above nodup' within' hid hv' rest
        refine hfirst _ a' v' habove hv' (List.cons_lex_cons_iff.mpr (.inl ?_))
        exact Nat.lt_of_lt_of_le hj (Nat.le_of_not_lt hi)
      rw [List.getElem?_append_right (Nat.le_of_not_lt hi)] at start
      refine ⟨(i - supers.length + 1) :: way, .mk (by simpa using start) climb nodup hold, hv, ?_⟩
      intro way' a' v' hroute' hv' hlex
      cases hroute' with
      | @mk k b' _ way' passed' start' climb' nodup' within' =>
        cases k with
        | zero =>
          rw [← Option.some.inj start'] at climb'
          exact hnone _ _ _ _ climb' nodup' within' hv'
        | succ k =>
          -- a way through this class would lead to an answer above it
          have hpassed : id ∉ passed' := by
            intro hpassed
            obtain ⟨way'', passed'', climb'', hsuffix⟩ := climb'.since hpassed
            exact hnone _ _ _ _ climb'' (hsuffix.sublist.nodup nodup')
              (fun j hj => within' j (hsuffix.subset hj)) hv'
          have hroute : Route ctx st (fresh.erase id) (supers ++ rest)
              ((supers.length + k) :: way') a' := by
            refine .mk ?_ climb' nodup' fun j hj => ?_
            · rw [List.getElem?_append_right (Nat.le_add_right _ _), Nat.add_sub_cancel_left]
              simpa using start'
            · have hne : j ≠ id := fun e => hpassed (e ▸ hj)
              exact (List.mem_erase_of_ne hne).mpr (within' j hj)
          refine hfirst _ a' v' hroute hv' ?_
          rw [List.cons_lex_cons_iff] at hlex ⊢
          exact hlex.imp (fun hlt => by omega) fun ⟨e, h⟩ => ⟨by omega, h⟩

/-- A place without superclasses is searched by itself. -/
theorem First.ofEnd {x : Ancestor} (hx : Climb ctx st x [] [] x)
    (hend : ∀ way passed a, Climb ctx st x way passed a → a = x) {places : List Ancestor}
    (hrest : places.findSome? f = some v → ∃ way a, First (Route ctx st fresh rest) f way a v)
    (hv : (x :: places).findSome? f = some v) :
    ∃ way a, First (Route ctx st fresh (x :: rest)) f way a v := by
  rw [List.findSome?_cons] at hv
  cases hhere : f x with
  | some w =>
    rw [hhere] at hv
    rw [← Option.some.inj hv]
    exact ⟨_, _, .here hx List.nodup_nil (by simp) hhere⟩
  | none =>
    rw [hhere] at hv
    obtain ⟨way, a, hfirst⟩ := hrest hv
    obtain ⟨way, hfirst⟩ := hfirst.skip (x := x) fun way' a' v' hroute hv' => by
      cases hroute with
      | mk start climb nodup within =>
        cases Option.some.inj start
        rw [hend _ _ _ climb, hhere] at hv'
        cases hv'
    exact ⟨way, a, hfirst⟩

/-- A search through a lineage finds the answer at the end of the first way to one. -/
theorem findSome?_lineageFrom (fresh : List ClassId) (pending : List Ancestor)
    (hfresh : fresh.Nodup) (hv : (lineageFrom ctx st fresh pending).findSome? f = some v) :
    ∃ way a, First (Route ctx st fresh pending) f way a v := by
  fun_induction lineageFrom ctx st fresh pending with
  | case1 => simp at hv
  | case2 fresh members rest ih =>
    refine First.ofEnd (.host members) (fun way passed a climb => ?_) (ih hfresh) hv
    cases climb
    rfl
  | case3 fresh info rest ih =>
    refine First.ofEnd (.made info) (fun way passed a climb => ?_) (ih hfresh) hv
    cases climb
    rfl
  | case4 fresh id rest hmem ih =>
    rw [List.findSome?_cons] at hv
    cases hhere : f (.script id) with
    | some w =>
      rw [hhere] at hv
      rw [← Option.some.inj hv]
      exact ⟨_, _, .here (.script id) (List.nodup_singleton id) (by simpa using hmem) hhere⟩
    | none =>
      rw [hhere] at hv
      obtain ⟨way, a, hfirst⟩ := ih (hfresh.erase id) hv
      obtain ⟨way, hfirst⟩ := hfirst.visit hfresh hmem hhere
      exact ⟨way, a, hfirst⟩
  -- whatever is above a class that was visited before was searched then
  | case5 fresh id rest hvisited ih =>
    obtain ⟨way, a, hfirst⟩ := ih hfresh hv
    obtain ⟨way, hfirst⟩ := hfirst.skip (x := .script id) fun way' a' v' hroute hv' => by
      cases hroute with
      | mk start climb nodup within =>
        cases Option.some.inj start
        exact hvisited (within id climb.mem_passed)
    exact ⟨way, a, hfirst⟩

end Search

/-! ### The attribute that is found -/

/-- A class has an attribute exactly if a class that it reaches binds it in its body, or names a host
class as a superclass that has a typed member of this name. -/
theorem isSome_classAttribute?_iff {start : Ancestor} (hstart : IsClass st start) :
    (classAttribute? ctx st start name).isSome = true ↔
      ∃ a, Reaches ctx st start a ∧ ∃ c, st.classAt? a = some c ∧
        ((∃ d, st.bodyBinding? c (some name) = some d) ∨
          ∃ base ∈ c.bases, ∃ members, ctx.reflect base = some members ∧
            ∃ m ∈ members, ∃ fields type, m.Types fields name type) := by
  unfold classAttribute?
  rw [List.findSome?_isSome_iff]
  simp only [Option.isSome_iff_exists, attributeAt?_eq_some_iff]
  rw [exists_mem_lineage_iff hstart fun id hno ⟨v, hv⟩ => hno (hasClass_of_has hv)]
  refine exists_congr fun a => and_congr_right fun _ => exists_congr fun c => ?_
  refine and_congr_right fun hc => or_congr ?_ ?_
  · constructor
    · rintro ⟨v, hv⟩
      cases hv with
      | body hc' hd =>
        rw [Option.some.inj (hc.symm.trans hc')]
        exact ⟨_, hd⟩
      | method first => simp [classAt?] at hc
      | field untyped first => simp [classAt?] at hc
    · rintro ⟨d, hd⟩
      exact ⟨_, .body hc hd⟩
  · simp only [exists_has_host_iff]

/-- A script in which `B` and a second `A` name each other as superclasses, and this `A` also names
a class with a method. -/
def crossedClasses : Store :=
  (Analysis.ofStatements {}
    [ .classDef "A" [] [],
      .classDef "B" [.name (some "A")] [],
      .classDef "R" [] [.function "f" (some []) [.ret .text]],
      .classDef "A" [.name (some "B"), .name (some "R")] [] ]).store

end Store

end ScriptScope
