import ScriptScope.Proofs.Growth
import ScriptScope.Proofs.Lookups
import ScriptScope.Proofs.Superclasses
import ScriptScope.Proofs.Upholds

/-!
# Class bodies that have ended

While the body of a class is walked, the name of the class is not bound yet, and a lookup from inside
may make up a builtin class of this name, for which the body then stands.  When the class statement
has ended the name is bound around the body, and it stays bound.  So it is after every readable
script (`Analysis.bodiesEnded_ofStatements`).

From then on a class that is made up for a superclass has no body that binds anything.  Whether it is
passed over matters for the members that are listed, but not for the attribute that is found: the
search finds the same in every heap (`Analysis.findSome?_listing_ofStatements`).
-/

namespace ScriptScope

namespace Store

variable {ctx : Context} {st : Store} {name : String}

/-- Every class body has ended: the scope around it binds the name of the class. -/
def BodiesEnded (st : Store) : Prop :=
  ∀ s className, (st.scope s).className = some className →
    ∃ around, (st.scope s).parent = some around ∧ some className ∈ (st.scope around).vars.names

/-- A variable of the scope around is in sight. -/
theorem binding?_ne_none_of_parent (hst : st.Sound) {s around : ScopeId} {label : Label}
    (hparent : (st.scope s).parent = some around) (hlabel : label ∈ (st.scope around).vars.names) :
    st.binding? s label ≠ none := by
  have hs : st.HasScope s := by
    by_contra hno
    rw [scope_of_not_hasScope hno] at hparent
    cases hparent
  have haround : st.HasScope around := Nat.lt_trans (hst.parent_lt s around hparent) hs
  obtain ⟨d, hd⟩ := Option.isSome_iff_exists.mp (Bindings.isSome_get?_iff.mpr hlabel)
  have hlookup : (st.scope around).lookup? label = some d := by
    rw [ScopeInfo.lookup?, hd]
    rfl
  rw [binding?_eq hst hs, hparent, Option.bind_some, binding?_eq hst haround, hlookup]
  simp

/-- A class that is made up for a superclass has no body of its own. -/
theorem BodiesEnded.bodyBinding?_eq_none (h : st.BodiesEnded) (hst : st.Sound) {c info : ClassInfo}
    {base : String} (hfound : st.scriptSuperclass? c base = some (.made info)) (member : Label) :
    st.bodyBinding? info member = none := by
  obtain ⟨s, hs⟩ := exists_find_of_scriptSuperclass? hfound
  obtain ⟨hunbound, text, htext, hinfo⟩ := builtin?_of_find hs
  obtain ⟨hname, hscope⟩ := site_of_builtin? hinfo
  rw [← Option.some.inj htext] at hname
  unfold bodyBinding?
  rw [hscope, Option.bind_some, hname]
  split
  · rename_i hclass
    obtain ⟨around, hparent, hbound⟩ := h s base hclass
    exact absurd hunbound (binding?_ne_none_of_parent hst hparent hbound)
  · rfl

/-! ### Searching along a listing -/

theorem findSome?_listedFrom (listed : List Nat) (stops : List Stop)
    (h : ∀ info, .made info ∈ stops.map Stop.place → st.attributeAt? name (.made info) = none) :
    (listedFrom listed stops).findSome? (st.attributeAt? name) =
      (stops.map Stop.place).findSome? (st.attributeAt? name) := by
  fun_induction listedFrom listed stops with
  | case1 => rfl
  | case2 listed info address rest hold ih =>
    have hnone : st.attributeAt? name (.made info) = none := h info (List.mem_cons_self ..)
    rw [ih fun other hother => h other (List.mem_cons_of_mem _ hother), List.map_cons, Stop.place,
      List.findSome?_cons, hnone]
  | case3 listed info address rest hnew ih =>
    rw [List.map_cons, List.findSome?_cons, List.findSome?_cons,
      ih fun other hother => h other (List.mem_cons_of_mem _ hother)]
    rfl
  | case4 listed stop rest hstop ih =>
    rw [List.map_cons, List.findSome?_cons, List.findSome?_cons,
      ih fun other hother => h other (List.mem_cons_of_mem _ hother)]

/-- What is passed over has no attribute. -/
theorem findSome?_listing (h : st.BodiesEnded) (hst : st.Sound) (start : Ancestor) (heap : Heap) :
    (listing ctx st start heap).findSome? (st.attributeAt? name) =
      classAttribute? ctx st start name := by
  cases start with
  | host members => simp [listing, stops, stopsFrom, listedFrom, classAttribute?, lineage,
      lineageFrom, Stop.place]
  -- a class that is made up is listed where the search starts
  | made info => simp [listing, stops, stopsFrom, listedFrom, classAttribute?, lineage, lineageFrom]
  | script id =>
    have hnone : ∀ a ∈ lineage ctx st (.script id), ∀ info, a = .made info →
        st.bodyBinding? info (some name) = none := by
      refine forall_mem_lineageFrom ?_ st.classIds [.script id] (by simp)
      rintro other - b hb info rfl
      obtain ⟨base, -, ⟨members, -, hhost⟩ | ⟨-, hfound⟩⟩ := mem_superclasses_iff.mp hb
      · cases hhost
      · exact h.bodyBinding?_eq_none hst hfound _
    unfold listing classAttribute?
    rw [findSome?_listedFrom, places_stops]
    intro info hinfo
    rw [places_stops] at hinfo
    rw [attributeAt?, hnone _ hinfo info rfl, Option.map_none]

/-! ### Readable scripts end all class bodies -/

/-- A walk opens no class body but those of the class statements that it comes to, and each of them
stands in the scope of its statement. -/
theorem upholds_bodies (ctx : Context) (bound : ScopeId → List Label) :
    Upholds ctx
      (fun v => ∀ className, v.stmt.opens = some (some className) →
        some className ∈ bound v.scope)
      (fun st => ∀ s className, (st.scope s).className = some className →
        ∃ around, (st.scope s).parent = some around ∧ some className ∈ bound around)
      (fun _ _ => True) where
  inferred _ _ _ := trivial
  unknown := trivial
  stored _ := trivial
  lasts _ _ _ := trivial
  var _ h _ _ := by simpa using h
  imported _ h := by simpa using h
  registered _ _ _ _ _ h := h
  opened {st s stmt className} hbound hopens hs h := by
    intro t name hname
    rcases st.addChild_cases s className t with rfl | rfl | e
    · rw [scope_addChild_new] at hname ⊢
      have hname : className = some name := hname
      exact ⟨s, rfl, hbound name (by rw [hopens, hname])⟩
    · rw [scope_addChild_self st className hs.has] at hname ⊢
      exact h t name hname
    · rw [e] at hname ⊢
      exact h t name hname
  made _ h _ _ := h
  parameter _ _ _ := trivial
  function _ _ _ _ := trivial
  closed _ _ h _ := by
    intro mid inner opened found t
    have hscopes : ((opened.2.gather opened.1 found).spread opened.1 found).scopes = mid.scopes := by
      rw [scopes_spread, scopes_gather, scopes_addClass]
    rw [scope_of_scopes_eq hscopes]
    exact h t

end Store

namespace Analysis

open Store

/-- A readable script ends all class bodies. -/
theorem bodiesEnded_ofStatements (ctx : Context) {body : List Stmt}
    (h : Stmt.allReadable body = true) : (ofStatements ctx body).store.BodiesEnded := by
  set final := (ofStatements ctx body).store
  have hstand : Stands ctx (empty ctx).store (empty ctx).root := standing_empty ctx fun _ => trivial
  refine (upholds_bodies ctx fun s => (final.scope s).vars.names).walkBody body hstand ?_ ?_
  · intro s className hclass
    rcases scope_empty ctx s with e | e <;> simp [e] at hclass
  · intro v hv className hopens
    -- the statement binds the name of its class, and the name stays bound
    have hpasses : Passes .free v (empty ctx).store final :=
      Keeping.passes_visitsIn body hstand.free (fun w _ => w.meets_free) v hv
    have hvisit := Standing.of_mem_visitsIn body hstand v hv
    have hread := Stmt.readable_of_mem_orderIn body h v.stmt (stmt_mem_orderIn body v hv)
    have hdraws := draws_walkStmt v.stmt hvisit.sound hvisit.has hread
    have hlocal : some className ∈ v.stmt.locals := by
      cases hstmt : v.stmt <;> simp_all [Stmt.opens, Stmt.locals]
    refine (hpasses.after.growth.vars v.scope).subset ?_
    change _ ∈ ((walkStmt v.scope v.stmt v.before).store.scope v.scope).vars.names
    rw [hdraws.names, mem_addNew]
    exact .inr hlocal

/-- **Attributes in any heap.**  After a readable script, a search for an attribute along the listing
of a class finds what the search along its lineage finds, whatever the addresses are that classes
made up by lookups are given. -/
theorem findSome?_listing_ofStatements (ctx outer : Context) {body : List Stmt}
    (h : Stmt.allReadable body = true) (start : Ancestor) (heap : Heap) (name : String) :
    let st := (ofStatements ctx body).store
    (listing outer st start heap).findSome? (st.attributeAt? name) =
      classAttribute? outer st start name := by
  have hstand : Stands ctx (empty ctx).store (empty ctx).root := standing_empty ctx fun _ => trivial
  exact findSome?_listing (bodiesEnded_ofStatements ctx h) (hstand.after_walkBody body).sound start
    heap

end Analysis

end ScriptScope
