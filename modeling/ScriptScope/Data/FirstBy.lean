/-!
# First occurrences

`firstBy key xs` keeps of all elements with the same key the first one, in order. Names are shadowed
in this way throughout the library: inner scopes come before outer ones, a class before its
superclasses.

Main statements: `mem_firstBy_keys`, no key is lost; `nodup_firstBy_keys`, no key is kept twice;
`find?_firstBy`, what is kept for a key is what stands first for it.
-/

namespace ScriptScope

variable {α : Type u} {β : Type v} [DecidableEq β]

/-- Keeps the elements whose key was not seen before. -/
def firstByFrom (key : α → β) (seen : List β) : List α → List α
  | [] => []
  | a :: rest =>
    if key a ∈ seen then firstByFrom key seen rest
    else a :: firstByFrom key (key a :: seen) rest

/-- Keeps the first element with each key. -/
def firstBy (key : α → β) (xs : List α) : List α :=
  firstByFrom key [] xs

/-- Keys are neither lost nor invented, apart from those seen before. -/
theorem mem_firstByFrom_keys (key : α → β) (seen : List β) (xs : List α) (k : β) :
    k ∈ (firstByFrom key seen xs).map key ↔ k ∈ xs.map key ∧ k ∉ seen := by
  induction xs generalizing seen with
  | nil => simp [firstByFrom]
  | cons a rest ih =>
    unfold firstByFrom
    by_cases hs : key a ∈ seen
    · simp only [hs, ↓reduceIte, ih, List.map_cons, List.mem_cons]
      constructor
      · rintro ⟨h, hk⟩; exact ⟨.inr h, hk⟩
      · rintro ⟨rfl | h, hk⟩
        · exact absurd hs hk
        · exact ⟨h, hk⟩
    · simp only [hs, ↓reduceIte, List.map_cons, List.mem_cons, ih]
      constructor
      · rintro (rfl | ⟨h, hk⟩)
        · exact ⟨.inl rfl, hs⟩
        · exact ⟨.inr h, fun h' => hk (.inr h')⟩
      · rintro ⟨rfl | h, hk⟩
        · exact .inl rfl
        · by_cases e : k = key a
          · exact .inl e
          · exact .inr ⟨h, fun h' => h'.elim e hk⟩

/-- The kept elements have exactly the keys of the given ones. -/
theorem mem_firstBy_keys (key : α → β) (xs : List α) (k : β) :
    k ∈ (firstBy key xs).map key ↔ k ∈ xs.map key := by
  simp [firstBy, mem_firstByFrom_keys]

/-- Kept elements have different keys. -/
theorem nodup_firstByFrom_keys (key : α → β) (seen : List β) (xs : List α) :
    ((firstByFrom key seen xs).map key).Nodup := by
  induction xs generalizing seen with
  | nil => simp [firstByFrom]
  | cons a rest ih =>
    unfold firstByFrom
    by_cases hs : key a ∈ seen
    · simpa [hs] using ih seen
    · simp only [hs, ↓reduceIte, List.map_cons, List.nodup_cons]
      refine ⟨fun h => ?_, ih _⟩
      have := (mem_firstByFrom_keys key (key a :: seen) rest (key a)).1 h
      exact this.2 (List.mem_cons_self ..)

/-- Each key is kept once. -/
theorem nodup_firstBy_keys (key : α → β) (xs : List α) : ((firstBy key xs).map key).Nodup :=
  nodup_firstByFrom_keys key [] xs

/-- What is kept for a key that was not seen before is the first element that has it. -/
theorem find?_firstByFrom (key : α → β) (seen : List β) (xs : List α) (k : β) (hk : k ∉ seen) :
    (firstByFrom key seen xs).find? (fun a => key a == k) = xs.find? (fun a => key a == k) := by
  induction xs generalizing seen with
  | nil => simp [firstByFrom]
  | cons a rest ih =>
    unfold firstByFrom
    by_cases hs : key a ∈ seen
    · have hne : ¬ key a = k := fun e => hk (e ▸ hs)
      simp [hs, hne, ih seen hk]
    · by_cases e : key a = k
      · subst e; simp [hs]
      · have hk' : k ∉ key a :: seen := by
          simp only [List.mem_cons, not_or]
          exact ⟨fun h => e h.symm, hk⟩
        simp [hs, e, ih _ hk']

/-- What is kept for a key is the first element that has it. -/
theorem find?_firstBy (key : α → β) (xs : List α) (k : β) :
    (firstBy key xs).find? (fun a => key a == k) = xs.find? (fun a => key a == k) :=
  find?_firstByFrom key [] xs k (by simp)

/-- Kept elements are among the given ones. -/
theorem mem_of_mem_firstByFrom (key : α → β) (seen : List β) (xs : List α) (a : α)
    (h : a ∈ firstByFrom key seen xs) : a ∈ xs := by
  induction xs generalizing seen with
  | nil => simp [firstByFrom] at h
  | cons b rest ih =>
    unfold firstByFrom at h
    by_cases hs : key b ∈ seen
    · simp only [hs, ↓reduceIte] at h
      exact List.mem_cons_of_mem _ (ih _ h)
    · simp only [hs, ↓reduceIte, List.mem_cons] at h
      rcases h with rfl | h
      · exact List.mem_cons_self ..
      · exact List.mem_cons_of_mem _ (ih _ h)

end ScriptScope
