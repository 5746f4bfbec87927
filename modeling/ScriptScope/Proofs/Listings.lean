import Mathlib.Data.List.Nodup
import Mathlib.Data.List.ReduceOption
import ScriptScope.Inference.Members

/-!
# Listings and lineages

A listing goes through the lineage of a class, place by place (`places_stops`), and lists the
members at every place but those of a class made up at an address that was listed before.  So it is
the lineage where no address comes back (`listing_eq_lineage`), as in the ample heap
(`listing_ample`).  In any heap it has all classes of the store and all host classes of the lineage,
and a class made up is left out exactly if it is passed over wherever the listing comes to it
(`mem_listing_iff`).
-/

namespace ScriptScope.Store

variable {ctx : Context} {st : Store} {start : Ancestor} {heap : Heap}

/-! ### The places that a listing comes to -/

theorem reduceOption_turns (ctx : Context) (st : Store) (c : ClassInfo) :
    (turns ctx st c).reduceOption = superclasses ctx st c := by
  unfold turns superclasses List.reduceOption
  rw [List.filterMap_map]
  rfl

theorem places_stopsFrom (heap : Heap) (ctx : Context) (st : Store) (fresh : List ClassId)
    (done : List Stop) (held : Option Nat) (pending : List (Option Ancestor)) :
    (stopsFrom heap ctx st fresh done held pending).map Stop.place =
      lineageFrom ctx st fresh pending.reduceOption := by
  fun_induction stopsFrom heap ctx st fresh done held pending with
  | case1 => simp [lineageFrom]
  | case2 fresh done held rest ih => exact ih
  | case3 fresh done held members rest ih =>
    rw [List.map_cons, ih, List.reduceOption_cons_of_some, lineageFrom]
    rfl
  | case4 fresh done held info rest address ih =>
    rw [List.map_cons, ih, List.reduceOption_cons_of_some, lineageFrom]
    rfl
  | case5 fresh done held id rest hid ih =>
    rw [List.reduceOption_append, reduceOption_turns, List.reduceOption_cons_of_none] at ih
    rw [List.map_cons, ih, List.reduceOption_cons_of_some, lineageFrom,
      ite_cond_eq_true _ _ (eq_true hid)]
    rfl
  | case6 fresh done held id rest hid ih =>
    rw [ih, List.reduceOption_cons_of_some, lineageFrom, ite_cond_eq_false _ _ (eq_false hid)]

/-- A listing goes through the lineage. -/
theorem places_stops (ctx : Context) (st : Store) (start : Ancestor) (heap : Heap) :
    (stops ctx st start heap).map Stop.place = lineage ctx st start := by
  unfold stops lineage
  exact places_stopsFrom heap ctx st st.classIds [] none [some start]

/-! ### The places that are listed -/

theorem listedFrom_sublist (listed : List Nat) (stops : List Stop) :
    (listedFrom listed stops).Sublist (stops.map Stop.place) := by
  fun_induction listedFrom listed stops with
  | case1 => exact .slnil
  | case2 listed info address rest hold ih => exact ih.cons _
  | case3 listed info address rest hnew ih => exact ih.cons_cons _
  | case4 listed stop rest hstop ih => exact ih.cons_cons _

/-- All but classes that were made up are listed. -/
theorem mem_listedFrom_of_stays {a : Ancestor} (ha : ∀ info, a ≠ .made info) (listed : List Nat)
    (stops : List Stop) : a ∈ listedFrom listed stops ↔ a ∈ stops.map Stop.place := by
  fun_induction listedFrom listed stops with
  | case1 => rfl
  | case2 listed info address rest hold ih =>
    rw [ih, List.map_cons, List.mem_cons]
    exact (or_iff_right (ha info)).symm
  | case3 listed info address rest hnew ih =>
    rw [List.map_cons, List.mem_cons, List.mem_cons, ih]
    rfl
  | case4 listed stop rest hstop ih => rw [List.map_cons, List.mem_cons, List.mem_cons, ih]

/-- A place that is listed is that of a stop, and what is listed before it comes from the stops
before. -/
theorem exists_stop_of_listedFrom {listed : List Nat} {stops : List Stop}
    {before after : List Ancestor} {a : Ancestor}
    (h : listedFrom listed stops = before ++ a :: after) :
    ∃ earlier stop later, stops = earlier ++ stop :: later ∧ stop.place = a ∧
      listedFrom listed earlier = before := by
  fun_induction listedFrom listed stops generalizing before with
  | case1 => simp at h
  | case2 listed info address rest hold ih =>
    obtain ⟨earlier, stop, later, rfl, hplace, hbefore⟩ := ih h
    refine ⟨.made info address :: earlier, stop, later, rfl, hplace, ?_⟩
    rw [listedFrom, ite_cond_eq_true _ _ (eq_true hold), hbefore]
  | case3 listed info address rest hnew ih =>
    cases before with
    | nil =>
      exact ⟨[], .made info address, rest, rfl, (List.cons.inj h).1, rfl⟩
    | cons b before =>
      obtain ⟨rfl, hrest⟩ := List.cons.inj h
      obtain ⟨earlier, stop, later, rfl, hplace, rfl⟩ := ih hrest
      refine ⟨.made info address :: earlier, stop, later, rfl, hplace, ?_⟩
      rw [listedFrom, ite_cond_eq_false _ _ (eq_false hnew)]
  | case4 listed first rest hfirst ih =>
    cases before with
    | nil => exact ⟨[], first, rest, rfl, (List.cons.inj h).1, rfl⟩
    | cons b before =>
      obtain ⟨rfl, hrest⟩ := List.cons.inj h
      obtain ⟨earlier, stop, later, rfl, hplace, rfl⟩ := ih hrest
      exact ⟨first :: earlier, stop, later, rfl, hplace, listedFrom.eq_3 _ _ _ hfirst⟩

/-- A class is made up at the first of some stops, or at one that follows. -/
theorem exists_made_cons_iff {info : ClassInfo} {stop : Stop} {rest : List Stop}
    {P : List Stop → Nat → Prop} :
    (∃ before address after, stop :: rest = before ++ .made info address :: after ∧
        P before address) ↔
      (∃ address, stop = .made info address ∧ P [] address) ∨
        ∃ before address after, rest = before ++ .made info address :: after ∧
          P (stop :: before) address := by
  constructor
  · rintro ⟨before, address, after, hstops, hP⟩
    rcases List.cons_eq_append_iff.mp hstops with ⟨rfl, hhead⟩ | ⟨others, rfl, hrest⟩
    · exact .inl ⟨address, (List.cons.inj hhead).1.symm, hP⟩
    · exact .inr ⟨others, address, after, hrest, hP⟩
  · rintro (⟨address, rfl, hP⟩ | ⟨before, address, after, rfl, hP⟩)
    · exact ⟨[], address, rest, rfl, hP⟩
    · exact ⟨stop :: before, address, after, rfl, hP⟩

/-- A class that was made up is listed where its address is new. -/
theorem made_mem_listedFrom_iff (info : ClassInfo) (listed : List Nat) (stops : List Stop) :
    .made info ∈ listedFrom listed stops ↔ ∃ before address after,
      stops = before ++ .made info address :: after ∧
      address ∉ listed ∧ address ∉ Stop.addresses before := by
  fun_induction listedFrom listed stops with
  | case1 => simp
  | case2 listed other taken rest hold ih =>
    -- the class at the address `taken` is not listed, and the address stays taken
    have hfirst : ¬ ∃ address, Stop.made other taken = .made info address ∧ address ∉ listed ∧
        address ∉ Stop.addresses [] := by
      rintro ⟨address, hsame, hnew, -⟩
      cases hsame
      exact hnew hold
    rw [ih, exists_made_cons_iff, or_iff_right hfirst]
    grind [Stop.addresses_made]
  | case3 listed other address rest hnew ih =>
    rw [exists_made_cons_iff, List.mem_cons, ih]
    grind [Stop.addresses_made, Stop.addresses_nil]
  | case4 listed stop rest hstop ih =>
    rw [exists_made_cons_iff, List.mem_cons, ih]
    cases stop with
    | host members => simp [Stop.place]
    | script id => simp [Stop.place]
    | made other address => exact absurd rfl (hstop other address)

/-- No address comes back in some stops. -/
def KeepsApart (stops : List Stop) : Prop :=
  (Stop.addresses stops).Nodup

/-- A class is passed over: wherever the stops come to it, it lies where one was before. -/
def PassesOver (stops : List Stop) : Ancestor → Prop
  | .made info => ∀ before address after, stops = before ++ .made info address :: after →
      address ∈ Stop.addresses before
  | _ => False

/-- What is listed: every place on the lineage, but for the classes that are passed over. -/
theorem mem_listing_iff {a : Ancestor} :
    a ∈ listing ctx st start heap ↔
      a ∈ lineage ctx st start ∧ ¬ PassesOver (stops ctx st start heap) a := by
  unfold listing
  rw [← places_stops ctx st start heap]
  cases a with
  | host members => simp [mem_listedFrom_of_stays, PassesOver]
  | script id => simp [mem_listedFrom_of_stays, PassesOver]
  | made info =>
    have hnot : ¬ PassesOver (stops ctx st start heap) (.made info) ↔
        .made info ∈ listedFrom [] (stops ctx st start heap) := by
      rw [made_mem_listedFrom_iff]
      simp [PassesOver]
    rw [hnot]
    exact ⟨fun h => ⟨(listedFrom_sublist _ _).subset h, h⟩, And.right⟩

/-! ### Where no address comes back -/

theorem listedFrom_eq_places (listed : List Nat) (stops : List Stop) (happart : KeepsApart stops)
    (hnew : ∀ address ∈ Stop.addresses stops, address ∉ listed) :
    listedFrom listed stops = stops.map Stop.place := by
  fun_induction listedFrom listed stops with
  | case1 => rfl
  | case2 listed info address rest hold ih =>
    exact absurd hold (hnew address (by simp))
  | case3 listed info address rest _ ih =>
    have happart' : address ∉ Stop.addresses rest ∧ KeepsApart rest := by
      simpa [KeepsApart] using happart
    rw [ih happart'.2, List.map_cons]
    · rfl
    · intro other hother hlisted
      rcases List.mem_cons.mp hlisted with rfl | hlisted
      · exact happart'.1 hother
      · exact hnew other (by simp [hother]) hlisted
  | case4 listed stop rest hstop ih =>
    cases stop with
    | host members => rw [ih happart hnew, List.map_cons]
    | script id => rw [ih happart hnew, List.map_cons]
    | made info address => exact absurd rfl (hstop info address)

theorem listing_eq_lineage (h : KeepsApart (stops ctx st start heap)) :
    listing ctx st start heap = lineage ctx st start := by
  rw [listing, listedFrom_eq_places [] _ h (by simp), places_stops]

/-- In the ample heap every address is above those that were used before. -/
theorem keepsApart_stopsFrom_ample (ctx : Context) (st : Store) (fresh : List ClassId)
    (done : List Stop) (held : Option Nat) (pending : List (Option Ancestor)) :
    KeepsApart (stopsFrom .ample ctx st fresh done held pending) ∧
    ∀ used ∈ Stop.addresses done,
      ∀ address ∈ Stop.addresses (stopsFrom .ample ctx st fresh done held pending),
        used < address := by
  fun_induction stopsFrom .ample ctx st fresh done held pending with
  | case1 => simp [KeepsApart]
  | case2 fresh done held rest ih => exact ih
  | case3 fresh done held members rest ih => exact ih
  | case4 fresh done held info rest address ih =>
    have happart : KeepsApart (.made info address ::
        stopsFrom .ample ctx st fresh (.made info address :: done) (some address) rest) := by
      refine List.nodup_cons.mpr ⟨fun hmem => ?_, ih.1⟩
      exact Nat.lt_irrefl _ (ih.2 address (by simp) address hmem)
    refine ⟨happart, fun used hused other hother => ?_⟩
    rcases List.mem_cons.mp hother with rfl | hother
    · exact Heap.lt_above_of_mem hused held
    · exact ih.2 used (by simp [hused]) other hother
  | case5 fresh done held id rest hid ih => exact ih
  | case6 fresh done held id rest hid ih => exact ih

theorem keepsApart_ample (ctx : Context) (st : Store) (start : Ancestor) :
    KeepsApart (stops ctx st start .ample) :=
  (keepsApart_stopsFrom_ample ctx st st.classIds [] none [some start]).1

theorem listing_ample (ctx : Context) (st : Store) (start : Ancestor) :
    listing ctx st start .ample = lineage ctx st start :=
  listing_eq_lineage (keepsApart_ample ctx st start)

/-- The class that is made up next lies apart from the one that the listing holds, so two
superclasses are never mistaken for each other if neither is a class of the store. -/
theorem keepsApart_of_two_bases (heap : Heap) {id : ClassId}
    (htwo : (st.cls id).bases.length ≤ 2)
    (hscript : ∀ other, .script other ∉ superclasses ctx st (st.cls id)) :
    KeepsApart (stops ctx st (.script id) heap) := by
  have hlength : (turns ctx st (st.cls id)).length ≤ 2 := by simpa [turns] using htwo
  have hno : ∀ turn ∈ turns ctx st (st.cls id), ∀ other, turn ≠ some (.script other) := by
    rintro turn hturn other rfl
    rw [← List.reduceOption_mem_iff, reduceOption_turns] at hturn
    exact hscript other hturn
  unfold stops KeepsApart
  rw [stopsFrom]
  generalize turns ctx st (st.cls id) = pending at hlength hno ⊢
  split
  · rcases pending with - | ⟨first, - | ⟨second, - | ⟨third, rest⟩⟩⟩
    · simp [stopsFrom]
    · rcases first with - | members | other | info
      all_goals simp_all [stopsFrom]
    -- only where both are made up are there two addresses
    · rcases first with - | members | other | info
      all_goals rcases second with - | members | other | info
      all_goals simp_all [stopsFrom]
      exact Ne.symm (heap.apart _ _ _)
    · simp at hlength
  · simp [stopsFrom]

/-! ### The class whose members a value has -/

/-- The script class that a type name stands for, where the host does not know the name. -/
def classNamed? (ctx : Context) (st : Store) (typeName : String) (scope : Option ScopeId) :
    Option Ancestor :=
  match ctx.reflect typeName with
  | some _ => none
  | none => scope.bind (fun s => ancestorOf? (st.find s (some typeName)))

/-- The script class whose members a value has: the class itself, or the class of an instance or of
a result. -/
def memberClass? (ctx : Context) (st : Store) : Value → Option Ancestor
  | .held (.instanceOf typeName scope) => classNamed? ctx st typeName scope
  | .held (.function fn) =>
    (fn.returns.filter (· ≠ "")).bind (fun typeName => classNamed? ctx st typeName fn.scope)
  | value => ancestorOf? value

/-- Members that are reported from outside the script. -/
inductive Reported (ctx : Context) : List Entry → Prop
  | nothing : Reported ctx []
  | imported (name : String) : Reported ctx (staticMembers ctx name)
  | host {typeName : String} {members : List Host.Member}
    (h : ctx.reflect typeName = some members) :
    Reported ctx ((members.filter (fun m => !m.isStatic)).map Entry.ofHost)

/-- The members of a value of a named type are those of the class of this name, or are reported from
outside. -/
theorem instanceMembers_cases (ctx : Context) (st : Store) (typeName : String)
    (scope : Option ScopeId) :
    (∃ start, classNamed? ctx st typeName scope = some start ∧ ∀ heap,
        instanceMembers ctx st typeName scope heap = classMembers ctx st start heap) ∨
      classNamed? ctx st typeName scope = none ∧
        ∃ entries, Reported ctx entries ∧
          ∀ heap, instanceMembers ctx st typeName scope heap = entries := by
  unfold classNamed? instanceMembers
  cases hreflect : ctx.reflect typeName with
  | some members => exact .inr ⟨rfl, _, .host hreflect, fun _ => rfl⟩
  | none =>
    dsimp only
    cases scope.bind (fun s => ancestorOf? (st.find s (some typeName))) with
    | some start => exact .inl ⟨start, rfl, fun _ => rfl⟩
    | none => exact .inr ⟨rfl, _, .nothing, fun _ => rfl⟩

/-- A value has the members of its class, or members that are reported from outside. -/
theorem members_cases (ctx : Context) (st : Store) (v : Value) :
    (∃ start, memberClass? ctx st v = some start ∧
        ∀ heap, members ctx st v heap = classMembers ctx st start heap) ∨
      memberClass? ctx st v = none ∧
        ∃ entries, Reported ctx entries ∧ ∀ heap, members ctx st v heap = entries := by
  cases v with
  | made info => exact .inl ⟨_, rfl, fun _ => rfl⟩
  | held d =>
    cases d with
    | unknown => exact .inr ⟨rfl, _, .nothing, fun _ => rfl⟩
    | static name => exact .inr ⟨rfl, _, .imported name, fun _ => rfl⟩
    | script id => exact .inl ⟨_, rfl, fun _ => rfl⟩
    | instanceOf typeName scope => exact instanceMembers_cases ctx st typeName scope
    | function fn =>
      unfold members memberClass?
      dsimp only
      cases fn.returns with
      | none => exact .inr ⟨rfl, _, .nothing, fun _ => rfl⟩
      | some typeName =>
        by_cases hempty : typeName = ""
        · exact .inr ⟨by simp [hempty], [], .nothing, by simp [hempty]⟩
        · have hfilter : (some typeName).filter (· ≠ "") = some typeName := by simp [hempty]
          rw [hfilter]
          simp only [Option.bind_some, hempty, ↓reduceIte]
          exact instanceMembers_cases ctx st typeName fn.scope

/-- No address comes back while the members of a value are listed. -/
def ListsApart (ctx : Context) (st : Store) (v : Value) (heap : Heap) : Prop :=
  ∀ start, memberClass? ctx st v = some start → KeepsApart (stops ctx st start heap)

theorem listsApart_ample (ctx : Context) (st : Store) (v : Value) : ListsApart ctx st v .ample :=
  fun start _ => keepsApart_ample ctx st start

/-- Then the members are those that the ample heap gives. -/
theorem members_eq_ample {v : Value} (h : ListsApart ctx st v heap) :
    members ctx st v heap = members ctx st v .ample := by
  rcases members_cases ctx st v with ⟨start, hstart, hmembers⟩ | ⟨-, entries, -, hentries⟩
  · rw [hmembers, hmembers]
    unfold classMembers
    rw [listing_eq_lineage (h start hstart), listing_ample]
  · rw [hentries, hentries]

end ScriptScope.Store
