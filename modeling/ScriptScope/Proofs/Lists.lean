import Mathlib.Data.List.Forall2
import ScriptScope.Data.FirstBy

/-!
# Lists of answers and of first occurrences

Two things are done to lists throughout: a question is put to every element, and there is an answer
only if each has one; and of the elements with the same key only the first is kept.  Registering
members and binding names are of the second kind: they add what is new to a list (`addNew`).
-/

namespace ScriptScope

/-! ### A question to every element -/

section Answers

variable {α β : Type} {f : α → Option β}

/-- Every element has an answer if and only if the answers are those of the elements in turn. -/
theorem mapM_eq_some_iff {xs : List α} {ys : List β} :
    xs.mapM f = some ys ↔ List.Forall₂ (fun x y => f x = some y) xs ys := by
  induction xs generalizing ys with
  | nil => simp [eq_comm]
  | cons x rest ih =>
    rw [List.mapM_cons, List.forall₂_cons_left_iff]
    constructor
    · intro h
      obtain ⟨y, hy, h⟩ := Option.bind_eq_some_iff.mp h
      obtain ⟨others, hothers, h⟩ := Option.bind_eq_some_iff.mp h
      exact ⟨y, others, hy, ih.mp hothers, (Option.some.inj h).symm⟩
    · rintro ⟨y, others, hy, hothers, rfl⟩
      rw [hy, ih.mpr hothers]
      rfl

/-- Each answer is that of an element. -/
theorem exists_of_mem_mapM {xs : List α} {ys : List β} (h : xs.mapM f = some ys) {y : β}
    (hy : y ∈ ys) : ∃ x ∈ xs, f x = some y := by
  have hall := mapM_eq_some_iff.mp h
  clear h
  induction hall with
  | nil => simp at hy
  | cons hx _ ih =>
    rcases List.mem_cons.mp hy with rfl | hy
    · exact ⟨_, List.mem_cons_self .., hx⟩
    · obtain ⟨x, hx, hfx⟩ := ih hy
      exact ⟨x, List.mem_cons_of_mem _ hx, hfx⟩

/-- Each element has an answer. -/
theorem exists_mem_of_mapM {xs : List α} {ys : List β} (h : xs.mapM f = some ys) {x : α}
    (hx : x ∈ xs) : ∃ y ∈ ys, f x = some y := by
  have hall := mapM_eq_some_iff.mp h
  clear h
  induction hall with
  | nil => simp at hx
  | cons hy _ ih =>
    rcases List.mem_cons.mp hx with rfl | hx
    · exact ⟨_, List.mem_cons_self .., hy⟩
    · obtain ⟨y, hy, hfy⟩ := ih hx
      exact ⟨y, List.mem_cons_of_mem _ hy, hfy⟩

/-- There are answers if and only if each element has one. -/
theorem isSome_mapM_iff {xs : List α} :
    (xs.mapM f).isSome = true ↔ ∀ x ∈ xs, (f x).isSome = true := by
  induction xs with
  | nil => simp
  | cons x rest ih =>
    rw [List.mapM_cons, List.forall_mem_cons, ← ih]
    cases f x with
    | none => simp
    | some y => cases rest.mapM f <;> simp

/-- There are answers if each element has one. -/
theorem exists_mapM_eq_some {xs : List α} (h : ∀ x ∈ xs, ∃ y, f x = some y) :
    ∃ ys, xs.mapM f = some ys := by
  simp only [← Option.isSome_iff_exists] at h ⊢
  exact isSome_mapM_iff.mpr h

/-- Answers that are changed one by one. -/
theorem mapM_eq_map_mapM {γ : Type} {f' : α → Option γ} {g : β → γ} {xs : List α}
    (h : ∀ a ∈ xs, f' a = (f a).map g) :
    xs.mapM f' = (xs.mapM f).map (List.map g) := by
  induction xs with
  | nil => rfl
  | cons a rest ih =>
    rw [List.forall_mem_cons] at h
    rw [List.mapM_cons, List.mapM_cons, h.1, ih h.2]
    cases f a with
    | none => rfl
    | some b => cases rest.mapM f <;> rfl

end Answers

/-! ### The last element -/

section Last

variable {α : Type}

/-- The last element of a list is its head or the last of what follows. -/
theorem cons_eq_concat {x v : α} {xs vs : List α} (h : x :: xs = vs ++ [v]) :
    (xs = [] ∧ vs = [] ∧ v = x) ∨ ∃ us, xs = us ++ [v] ∧ vs = x :: us := by
  cases vs with
  | nil =>
    rw [List.nil_append, List.cons.injEq] at h
    exact .inl ⟨h.2, rfl, h.1.symm⟩
  | cons y ys =>
    rw [List.cons_append, List.cons.injEq] at h
    exact .inr ⟨ys, h.2, by rw [h.1]⟩

/-- The last element of two lists is the last of the second, unless that is empty. -/
theorem append_eq_concat {v : α} {xs ys vs : List α} (h : xs ++ ys = vs ++ [v]) :
    (ys = [] ∧ xs = vs ++ [v]) ∨ ∃ us, ys = us ++ [v] ∧ vs = xs ++ us := by
  rcases List.eq_nil_or_concat ys with rfl | ⟨us, w, rfl⟩
  · exact .inl ⟨rfl, by rwa [List.append_nil] at h⟩
  · rw [List.concat_eq_append] at h ⊢
    rw [← List.append_assoc] at h
    obtain ⟨hinit, hlast⟩ := List.append_inj' h rfl
    rw [List.singleton_inj.mp hlast]
    exact .inr ⟨us, rfl, hinit.symm⟩

end Last

/-! ### First occurrences -/

section FirstOccurrences

variable {α : Type} {β : Type} [DecidableEq β]

theorem firstByFrom_cons (key : α → β) (seen : List β) (a : α) (rest : List α) :
    firstByFrom key seen (a :: rest) =
      if key a ∈ seen then firstByFrom key seen rest
      else a :: firstByFrom key (key a :: seen) rest := rfl

/-- Other names for the keys change nothing, as long as they differ where the keys do. -/
theorem firstBy_map {f : β → β} (hf : Function.Injective f) (xs : List β) :
    firstBy id (xs.map f) = (firstBy id xs).map f := by
  have hfrom : ∀ seen, firstByFrom id (seen.map f) (xs.map f) =
      (firstByFrom id seen xs).map f := by
    induction xs with
    | nil => exact fun _ => rfl
    | cons x rest ih =>
      intro seen
      rw [List.map_cons, firstByFrom_cons, firstByFrom_cons, id_eq, id_eq, ih seen,
        ← List.map_cons, ih (x :: seen)]
      simp only [List.mem_map_of_injective hf]
      split <;> rfl
  exact hfrom []

/-- What was seen before counts only by its members. -/
theorem firstByFrom_congr (key : α → β) {seen seen' : List β} (h : ∀ k, k ∈ seen ↔ k ∈ seen')
    (xs : List α) : firstByFrom key seen xs = firstByFrom key seen' xs := by
  induction xs generalizing seen seen' with
  | nil => rfl
  | cons a rest ih =>
    rw [firstByFrom_cons, firstByFrom_cons key seen']
    have hcons : ∀ k, k ∈ key a :: seen ↔ k ∈ key a :: seen' := by
      intro k
      rw [List.mem_cons, List.mem_cons, h]
    rw [ih h, ih hcons]
    simp only [h]

/-- First occurrences in two lists: those in the first, and those in the second that are new. -/
theorem firstByFrom_append (key : α → β) (seen : List β) (xs ys : List α) :
    firstByFrom key seen (xs ++ ys) =
      firstByFrom key seen xs ++ firstByFrom key (xs.map key ++ seen) ys := by
  induction xs generalizing seen with
  | nil => rfl
  | cons a rest ih =>
    rw [List.cons_append, firstByFrom_cons, firstByFrom_cons key seen a rest]
    by_cases hs : key a ∈ seen
    · simp only [hs, ↓reduceIte, ih]
      congr 1
      refine firstByFrom_congr key (fun k => ?_) ys
      simp only [List.map_cons, List.cons_append, List.mem_cons, List.mem_append]
      grind
    · simp only [hs, ↓reduceIte, ih, List.cons_append]
      congr 2
      refine firstByFrom_congr key (fun k => ?_) ys
      simp only [List.map_cons, List.cons_append, List.mem_cons, List.mem_append]
      grind

/-- Among elements with different keys, all are first occurrences but those seen before. -/
theorem firstByFrom_eq_filter (key : α → β) (seen : List β) {xs : List α}
    (h : (xs.map key).Nodup) :
    firstByFrom key seen xs = xs.filter (fun a => key a ∉ seen) := by
  induction xs generalizing seen with
  | nil => rfl
  | cons a rest ih =>
    rw [List.map_cons, List.nodup_cons] at h
    rw [firstByFrom_cons]
    by_cases hs : key a ∈ seen
    · simp [hs, ih seen h.2]
    · rw [ite_cond_eq_false _ _ (eq_false hs), ih _ h.2,
        List.filter_cons_of_pos (by simpa using hs)]
      congr 1
      refine List.filter_congr fun b hb => ?_
      have hne : key b ≠ key a := fun e => h.1 (e ▸ List.mem_map_of_mem hb)
      simp [hne]

/-- Elements with different keys are all first occurrences. -/
theorem firstBy_eq_self (key : α → β) {xs : List α} (h : (xs.map key).Nodup) :
    firstBy key xs = xs := by
  unfold firstBy
  rw [firstByFrom_eq_filter key [] h]
  simp

/-- An element whose key no other has is found by its key. -/
theorem find?_key_of_mem (key : α → β) {xs : List α} (hnodup : (xs.map key).Nodup) {a : α}
    (ha : a ∈ xs) : xs.find? (fun b => key b == key a) = some a := by
  induction xs with
  | nil => simp at ha
  | cons b rest ih =>
    rw [List.map_cons, List.nodup_cons] at hnodup
    rcases List.mem_cons.mp ha with rfl | ha
    · simp
    · have hne : key b ≠ key a := fun e => hnodup.1 (e ▸ List.mem_map_of_mem ha)
      rw [List.find?_cons_of_neg (by simpa using hne)]
      exact ih hnodup.2 ha

/-- Adds to a list the elements that it lacks, in order and each once. -/
def addNew (known xs : List β) : List β :=
  known ++ firstByFrom id known xs

theorem addNew_nil (known : List β) : addNew known [] = known :=
  List.append_nil known

theorem nil_addNew (xs : List β) : addNew [] xs = firstBy id xs := rfl

theorem addNew_singleton (known : List β) (x : β) :
    addNew known [x] = if x ∈ known then known else known ++ [x] := by
  unfold addNew
  rw [firstByFrom_cons, id_eq]
  split
  · exact List.append_nil known
  · rfl

/-- Two lists are added one after the other. -/
theorem addNew_append (known xs ys : List β) :
    addNew known (xs ++ ys) = addNew (addNew known xs) ys := by
  unfold addNew
  rw [firstByFrom_append, ← List.append_assoc]
  congr 1
  refine firstByFrom_congr id (fun k => ?_) ys
  have hkeys := mem_firstByFrom_keys id known xs k
  rw [List.map_id, List.map_id] at hkeys
  rw [List.map_id, List.mem_append, List.mem_append, hkeys]
  -- what is in `xs` is known already or new
  by_cases hk : k ∈ known
  · simp [hk]
  · simp [hk]

theorem mem_addNew {known xs : List β} {x : β} : x ∈ addNew known xs ↔ x ∈ known ∨ x ∈ xs := by
  have hkeys := mem_firstByFrom_keys id known xs x
  rw [List.map_id, List.map_id] at hkeys
  unfold addNew
  rw [List.mem_append, hkeys]
  by_cases hx : x ∈ known
  · simp [hx]
  · simp [hx]

/-- Elements that are all different are first occurrences, whatever is added to them. -/
theorem addNew_eq_firstBy {known : List β} (h : known.Nodup) (xs : List β) :
    addNew known xs = firstBy id (known ++ xs) := by
  have hknown : addNew [] known = known := by
    rw [nil_addNew]
    exact firstBy_eq_self id (by rwa [List.map_id])
  rw [← nil_addNew, addNew_append, hknown]

theorem nodup_addNew {known : List β} (h : known.Nodup) (xs : List β) :
    (addNew known xs).Nodup := by
  rw [addNew_eq_firstBy h]
  simpa using nodup_firstBy_keys id (known ++ xs)

end FirstOccurrences

end ScriptScope
