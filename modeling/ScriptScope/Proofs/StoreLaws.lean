import ScriptScope.Scope.Lookup

/-!
# Reading a store after a write

A store has scopes and classes by number.  Each way of writing to it changes one scope or one class,
or adds one at the end; the laws below say what is read afterwards, so that nothing else needs to
know how a store is laid out.
-/

namespace ScriptScope

attribute [ext] ScopeId ClassId

/-- A class body that binds a name to such a descriptor makes it a member. -/
def Descriptor.isMember : Descriptor → Bool
  | .function _ | .script _ => true
  | .unknown | .instanceOf _ _ | .static _ => false

/-! ### Classes by themselves -/

namespace ClassInfo

/-- Registering members changes nothing else about a class. -/
theorem putAll_eq (c : ClassInfo) (members : List Label) :
    c.putAll members = { c with members := (c.putAll members).members } := by
  unfold putAll
  induction members generalizing c with
  | nil => rfl
  | cons m rest ih =>
    rw [List.foldl_cons, ih]
    unfold put
    split <;> rfl

@[simp] theorem scope_putAll (c : ClassInfo) (members : List Label) :
    (c.putAll members).scope = c.scope := by
  rw [putAll_eq]

@[simp] theorem name_putAll (c : ClassInfo) (members : List Label) :
    (c.putAll members).name = c.name := by
  rw [putAll_eq]

end ClassInfo

namespace Store

/-- The store has a scope of this number. -/
def HasScope (st : Store) (s : ScopeId) : Prop := s.index < st.scopes.length

/-- The store has a class of this number. -/
def HasClass (st : Store) (id : ClassId) : Prop := id.index < st.classes.length

instance (st : Store) (s : ScopeId) : Decidable (st.HasScope s) :=
  inferInstanceAs (Decidable (_ < _))

instance (st : Store) (id : ClassId) : Decidable (st.HasClass id) :=
  inferInstanceAs (Decidable (_ < _))

/-- Scopes are read off the list of scopes alone. -/
theorem scope_of_scopes_eq {st st' : Store} (h : st'.scopes = st.scopes) (t : ScopeId) :
    st'.scope t = st.scope t := by
  unfold scope
  rw [h]

/-! ### Numbers without a scope or a class -/

/-- A number that no scope has reads as a scope without bindings. -/
theorem scope_of_not_hasScope {st : Store} {s : ScopeId} (h : ¬ st.HasScope s) :
    st.scope s = {} := by
  unfold scope
  rw [List.getElem?_eq_none (Nat.le_of_not_lt h)]
  rfl

/-- A number that no class has reads as a class without members. -/
theorem cls_of_not_hasClass {st : Store} {id : ClassId} (h : ¬ st.HasClass id) :
    st.cls id = default := by
  unfold cls
  rw [List.getElem?_eq_none (Nat.le_of_not_lt h)]
  rfl

/-! ### Changing a scope -/

section ModifyScope

variable (st : Store) (s t : ScopeId) (f : ScopeInfo → ScopeInfo)

@[simp] theorem length_scopes_modifyScope :
    (st.modifyScope s f).scopes.length = st.scopes.length := by
  simp [modifyScope]

@[simp] theorem classes_modifyScope : (st.modifyScope s f).classes = st.classes := rfl

@[simp] theorem cls_modifyScope (id : ClassId) : (st.modifyScope s f).cls id = st.cls id := rfl

theorem scope_modifyScope_self (h : st.HasScope s) :
    (st.modifyScope s f).scope s = f (st.scope s) := by
  unfold HasScope at h
  simp [modifyScope, scope, h]

variable {s t}

theorem scope_modifyScope_of_ne (h : t ≠ s) : (st.modifyScope s f).scope t = st.scope t := by
  have hne : s.index ≠ t.index := fun e => h (ScopeId.ext e.symm)
  simp [modifyScope, scope, List.getElem?_modify_ne, hne]

/-- What a change of a scope leaves alone is read as before. -/
theorem scope_modifyScope_field {α : Type} (g : ScopeInfo → α) (hf : ∀ info, g (f info) = g info) :
    g ((st.modifyScope s f).scope t) = g (st.scope t) := by
  by_cases hts : t = s
  · subst hts
    -- a number without a scope reads as an empty scope before and after
    by_cases h : st.HasScope t
    · rw [scope_modifyScope_self st t f h, hf]
    · have h' : ¬ (st.modifyScope t f).HasScope t := by
        simpa only [HasScope, length_scopes_modifyScope] using h
      rw [scope_of_not_hasScope h, scope_of_not_hasScope h']
  · rw [scope_modifyScope_of_ne st f hts]

end ModifyScope

/-! ### Binding names -/

section Bind

variable (st : Store) (s t : ScopeId) (name : Label) (value : Descriptor)

@[simp] theorem length_scopes_bindVar :
    (st.bindVar s name value).scopes.length = st.scopes.length :=
  length_scopes_modifyScope ..

@[simp] theorem length_scopes_bindImport :
    (st.bindImport s name value).scopes.length = st.scopes.length :=
  length_scopes_modifyScope ..

@[simp] theorem classes_bindVar : (st.bindVar s name value).classes = st.classes := rfl

@[simp] theorem classes_bindImport : (st.bindImport s name value).classes = st.classes := rfl

@[simp] theorem cls_bindVar (id : ClassId) : (st.bindVar s name value).cls id = st.cls id := rfl

@[simp] theorem cls_bindImport (id : ClassId) : (st.bindImport s name value).cls id = st.cls id :=
  rfl

@[simp] theorem parent_bindVar : ((st.bindVar s name value).scope t).parent = (st.scope t).parent :=
  scope_modifyScope_field st _ ScopeInfo.parent fun _ => rfl

@[simp] theorem className_bindVar :
    ((st.bindVar s name value).scope t).className = (st.scope t).className :=
  scope_modifyScope_field st _ ScopeInfo.className fun _ => rfl

@[simp] theorem context_bindVar :
    ((st.bindVar s name value).scope t).context = (st.scope t).context :=
  scope_modifyScope_field st _ ScopeInfo.context fun _ => rfl

@[simp] theorem children_bindVar :
    ((st.bindVar s name value).scope t).children = (st.scope t).children :=
  scope_modifyScope_field st _ ScopeInfo.children fun _ => rfl

@[simp] theorem imports_bindVar :
    ((st.bindVar s name value).scope t).imports = (st.scope t).imports :=
  scope_modifyScope_field st _ ScopeInfo.imports fun _ => rfl

@[simp] theorem parent_bindImport :
    ((st.bindImport s name value).scope t).parent = (st.scope t).parent :=
  scope_modifyScope_field st _ ScopeInfo.parent fun _ => rfl

@[simp] theorem className_bindImport :
    ((st.bindImport s name value).scope t).className = (st.scope t).className :=
  scope_modifyScope_field st _ ScopeInfo.className fun _ => rfl

@[simp] theorem context_bindImport :
    ((st.bindImport s name value).scope t).context = (st.scope t).context :=
  scope_modifyScope_field st _ ScopeInfo.context fun _ => rfl

@[simp] theorem children_bindImport :
    ((st.bindImport s name value).scope t).children = (st.scope t).children :=
  scope_modifyScope_field st _ ScopeInfo.children fun _ => rfl

@[simp] theorem vars_bindImport :
    ((st.bindImport s name value).scope t).vars = (st.scope t).vars :=
  scope_modifyScope_field st _ ScopeInfo.vars fun _ => rfl

variable {s t}

theorem vars_bindVar_self (h : st.HasScope s) :
    ((st.bindVar s name value).scope s).vars = (st.scope s).vars.bind name value := by
  unfold bindVar
  rw [scope_modifyScope_self st s _ h]

theorem imports_bindImport_self (h : st.HasScope s) :
    ((st.bindImport s name value).scope s).imports = (st.scope s).imports.bind name value := by
  unfold bindImport
  rw [scope_modifyScope_self st s _ h]

theorem scope_bindVar_of_ne (h : t ≠ s) : (st.bindVar s name value).scope t = st.scope t :=
  scope_modifyScope_of_ne st _ h

theorem scope_bindImport_of_ne (h : t ≠ s) : (st.bindImport s name value).scope t = st.scope t :=
  scope_modifyScope_of_ne st _ h

end Bind

/-! ### Opening a scope -/

section AddChild

variable (st : Store) (s : ScopeId) (className : Option String)

@[simp] theorem index_addChild : (st.addChild s className).1.index = st.scopes.length := rfl

@[simp] theorem length_scopes_addChild :
    (st.addChild s className).2.scopes.length = st.scopes.length + 1 := by
  simp [addChild]

@[simp] theorem classes_addChild : (st.addChild s className).2.classes = st.classes := rfl

@[simp] theorem cls_addChild (id : ClassId) : (st.addChild s className).2.cls id = st.cls id := rfl

/-- The new scope is empty, stands in `s` and has its context. -/
theorem scope_addChild_new : (st.addChild s className).2.scope (st.addChild s className).1 =
    { parent := some s, className, context := (st.scope s).context } := by
  simp [addChild, scope, modifyScope]

variable {s}

/-- The scope around the new one has it as its last child. -/
theorem scope_addChild_self (h : st.HasScope s) : (st.addChild s className).2.scope s =
    { st.scope s with children := (st.scope s).children ++ [(st.addChild s className).1] } := by
  have hlen : s.index < (st.modifyScope s (fun info =>
      { info with children := info.children ++ [⟨st.scopes.length⟩] })).scopes.length := by
    rw [length_scopes_modifyScope]
    exact h
  have := scope_modifyScope_self st s
    (fun info => { info with children := info.children ++ [⟨st.scopes.length⟩] }) h
  unfold scope at this ⊢
  simp only [addChild]
  rw [List.getElem?_append_left hlen]
  exact this

theorem scope_addChild_of_ne {t : ScopeId} (ht : t ≠ s) (hnew : t ≠ (st.addChild s className).1) :
    (st.addChild s className).2.scope t = st.scope t := by
  have hlen : t.index ≠ st.scopes.length := fun e => hnew (ScopeId.ext e)
  rw [← scope_modifyScope_of_ne st
    (fun info => { info with children := info.children ++ [⟨st.scopes.length⟩] }) ht]
  unfold scope
  simp only [addChild]
  -- `t` is older than the new scope, or there is no such scope
  rcases Nat.lt_or_gt_of_ne hlen with hlt | hgt
  · rw [List.getElem?_append_left (by rw [length_scopes_modifyScope]; exact hlt)]
  · have hlen' : (st.modifyScope s (fun info =>
        { info with children := info.children ++ [⟨st.scopes.length⟩] })).scopes.length
          = st.scopes.length := length_scopes_modifyScope ..
    rw [List.getElem?_eq_none (by simp only [List.length_append, List.length_singleton]; omega),
      List.getElem?_eq_none (by omega)]

end AddChild

/-- After a scope was opened, a scope is the new one, the one around it, or one that is as before.
-/
theorem addChild_cases (st : Store) (t : ScopeId) (className : Option String) (s : ScopeId) :
    s = (st.addChild t className).1 ∨ s = t ∨
      (st.addChild t className).2.scope s = st.scope s := by
  by_cases h₁ : s = (st.addChild t className).1
  · exact .inl h₁
  · by_cases h₂ : s = t
    · exact .inr (.inl h₂)
    · exact .inr (.inr (scope_addChild_of_ne st className h₂ h₁))

/-! ### Classes -/

section Classes

variable (st : Store)

@[simp] theorem scopes_modifyClass (id : ClassId) (f : ClassInfo → ClassInfo) :
    (st.modifyClass id f).scopes = st.scopes := rfl

@[simp] theorem scope_modifyClass (id : ClassId) (f : ClassInfo → ClassInfo) (s : ScopeId) :
    (st.modifyClass id f).scope s = st.scope s := rfl

@[simp] theorem length_classes_modifyClass (id : ClassId) (f : ClassInfo → ClassInfo) :
    (st.modifyClass id f).classes.length = st.classes.length := by
  simp [modifyClass]

theorem cls_modifyClass_self {id : ClassId} (f : ClassInfo → ClassInfo) (h : st.HasClass id) :
    (st.modifyClass id f).cls id = f (st.cls id) := by
  unfold HasClass at h
  simp [modifyClass, cls, h]

theorem cls_modifyClass_of_ne {id other : ClassId} (f : ClassInfo → ClassInfo) (h : other ≠ id) :
    (st.modifyClass id f).cls other = st.cls other := by
  have hne : id.index ≠ other.index := fun e => h (ClassId.ext e.symm)
  simp [modifyClass, cls, List.getElem?_modify_ne, hne]

@[simp] theorem scopes_addClass (c : ClassInfo) : (st.addClass c).2.scopes = st.scopes := rfl

@[simp] theorem scope_addClass (c : ClassInfo) (s : ScopeId) :
    (st.addClass c).2.scope s = st.scope s := rfl

@[simp] theorem index_addClass (c : ClassInfo) : (st.addClass c).1.index = st.classes.length := rfl

@[simp] theorem length_classes_addClass (c : ClassInfo) :
    (st.addClass c).2.classes.length = st.classes.length + 1 := by
  simp [addClass]

theorem cls_addClass_new (c : ClassInfo) : (st.addClass c).2.cls (st.addClass c).1 = c := by
  simp [addClass, cls]

theorem cls_addClass_of_ne {c : ClassInfo} {id : ClassId} (h : id ≠ (st.addClass c).1) :
    (st.addClass c).2.cls id = st.cls id := by
  have hne : id.index ≠ st.classes.length := fun e => h (ClassId.ext e)
  unfold cls addClass
  rcases Nat.lt_or_gt_of_ne hne with hlt | hgt
  · rw [List.getElem?_append_left hlt]
  · rw [List.getElem?_eq_none (by simp only [List.length_append, List.length_singleton]; omega),
      List.getElem?_eq_none (by omega)]

end Classes

end Store

end ScriptScope
