import Mathlib.Data.List.Infix
import ScriptScope.Proofs.NameCompletion

/-!
# Ranking members

Candidates are kept if their name contains the typed text, whatever the case of either, and come in
two blocks: those whose name starts with it, and the others.  Within a block the order is that of
the names in lower case, then that of the names, and candidates of the same name keep their order.
Two facts carry this: keys are ordered linearly (`Key.le_antisymm`), and a stable sort is determined
by the order of the keys and by what it does to the candidates of one key
(`eq_of_filter_key_eq`).

Lower case is not taken letter by letter: a capital sigma has another lower case at the end of a
word.  So the lower case of a text need not be a beginning of the lower case of a longer one
(`lower_isPrefix_iff`), and a name that starts with the typed text may not be offered for it.

Main statement: `suggest_ranked`.
-/

namespace ScriptScope

/-! ### The lower case of a beginning -/

namespace Text

theorem contains_iff {text part : String} :
    contains text part = true ↔ part.toList <:+: text.toList := by
  have hlist : ∀ (needle cs : List Char), occursIn needle cs = true ↔ needle <:+: cs := by
    intro needle cs
    induction cs with
    | nil => simp [occursIn]
    | cons c rest ih =>
      rw [occursIn, Bool.or_eq_true, ih, List.isPrefixOf_iff_prefix, List.infix_cons_iff]
  exact hlist _ _

/-- Whether a character vanishes when the end of a word is looked for. -/
def isMark (c : Char) : Bool :=
  caseIgnorableRanges.contains c

theorem meetsCased_cons (c : Char) (rest : List Char) :
    meetsCased (c :: rest) = if isMark c then meetsCased rest else casedRanges.contains c := by
  unfold meetsCased isMark
  rw [List.dropWhile_cons]
  by_cases h : caseIgnorableRanges.contains c = true
  · rw [ite_cond_eq_true _ _ (eq_true h), ite_cond_eq_true _ _ (eq_true h)]
  · rw [ite_cond_eq_false _ _ (eq_false h), ite_cond_eq_false _ _ (eq_false h)]

/-- Marks decide nothing: what follows them does. -/
theorem meetsCased_append_of_marks {marks : List Char} (h : ∀ c ∈ marks, isMark c = true)
    (rest : List Char) : meetsCased (marks ++ rest) = meetsCased rest := by
  induction marks with
  | nil => rfl
  | cons c others ih =>
    rw [List.forall_mem_cons] at h
    rw [List.cons_append, meetsCased_cons, h.1, ih h.2]
    rfl

/-- A character that is not a mark decides, whatever follows. -/
theorem meetsCased_append_of_not_marks {cs : List Char} (h : ¬ ∀ c ∈ cs, isMark c = true)
    (rest : List Char) : meetsCased (cs ++ rest) = meetsCased cs := by
  induction cs with
  | nil => simp at h
  | cons c others ih =>
    rw [List.cons_append, meetsCased_cons, meetsCased_cons]
    by_cases hc : isMark c = true
    · rw [List.forall_mem_cons, not_and] at h
      rw [hc, ih (h hc)]
    · rw [ite_cond_eq_false _ _ (eq_false hc), ite_cond_eq_false _ _ (eq_false hc)]

/-- With `before` in front, a text ends, up to marks, in a capital sigma that ends a word, but the
word goes on in `rest`. -/
def CutsWord (before seed rest : List Char) : Prop :=
  ∃ start marks, seed = start ++ 'Σ' :: marks ∧ meetsCased (start.reverse ++ before) = true ∧
    (∀ c ∈ marks, isMark c = true) ∧ meetsCased rest = true

/-- The first character cuts the word itself, or what follows it does. -/
theorem cutsWord_cons_iff {before rest cs : List Char} {c : Char} :
    CutsWord before (c :: cs) rest ↔
      (c = 'Σ' ∧ meetsCased before = true ∧ (∀ d ∈ cs, isMark d = true) ∧ meetsCased rest = true) ∨
        CutsWord (c :: before) cs rest := by
  constructor
  · rintro ⟨start, marks, hcs, hbefore, hmarks, hrest⟩
    cases start with
    | nil =>
      obtain ⟨rfl, rfl⟩ := List.cons.inj hcs
      exact .inl ⟨rfl, hbefore, hmarks, hrest⟩
    | cons d others =>
      obtain ⟨rfl, rfl⟩ := List.cons.inj hcs
      rw [List.reverse_cons, List.append_assoc] at hbefore
      exact .inr ⟨others, marks, rfl, hbefore, hmarks, hrest⟩
  · rintro (⟨rfl, hbefore, hmarks, hrest⟩ | ⟨start, marks, rfl, hbefore, hmarks, hrest⟩)
    · exact ⟨[], cs, rfl, hbefore, hmarks, hrest⟩
    · refine ⟨c :: start, marks, rfl, ?_, hmarks, hrest⟩
      rwa [List.reverse_cons, List.append_assoc]

/-- A capital sigma in front has one lower case, whatever stands behind the text, unless the text
cuts its word. -/
theorem sigma_final_iff {before cs rest : List Char} :
    (meetsCased before && !meetsCased cs) = (meetsCased before && !meetsCased (cs ++ rest)) ↔
      ¬ (meetsCased before = true ∧ (∀ c ∈ cs, isMark c = true) ∧ meetsCased rest = true) := by
  by_cases hcs : ∀ c ∈ cs, isMark c = true
  · have hnone : meetsCased cs = false := by
      have h := meetsCased_append_of_marks hcs []
      rwa [List.append_nil] at h
    rw [hnone, meetsCased_append_of_marks hcs, and_iff_right hcs]
    cases meetsCased before <;> cases meetsCased rest <;> simp
  · rw [meetsCased_append_of_not_marks hcs]
    simp [hcs]

/-- The lower case of a text is a beginning of the lower case of a longer one, unless the text cuts a
word behind a capital sigma. -/
theorem lowerFrom_isPrefix_iff (before seed rest : List Char) :
    lowerFrom before seed <+: lowerFrom before (seed ++ rest) ↔ ¬ CutsWord before seed rest := by
  induction seed generalizing before with
  | nil =>
    have hnot : ¬ CutsWord before [] rest := by
      rintro ⟨start, marks, h, -⟩
      simp at h
    simp [lowerFrom, hnot]
  | cons c cs ih =>
    rw [List.cons_append, lowerFrom, lowerFrom, cutsWord_cons_iff, not_or]
    by_cases hc : c = 'Σ'
    · subst hc
      rw [ite_cond_eq_true _ _ (eq_self _), ite_cond_eq_true _ _ (eq_self _), List.singleton_append,
        List.singleton_append, List.cons_prefix_cons, ih]
      refine and_congr_left fun _ => ?_
      -- the two lower cases of the sigma are the same character exactly if it is final in both
      rw [eq_self, true_and, ← sigma_final_iff]
      cases meetsCased before && !meetsCased cs <;>
        cases meetsCased before && !meetsCased (cs ++ rest) <;> simp
    · rw [ite_cond_eq_false _ _ (eq_false hc), ite_cond_eq_false _ _ (eq_false hc),
        List.prefix_append_right_inj, ih]
      simp [hc]

/-- The lower case of a typed text is a beginning of that of a name that starts with it, unless the
text cuts a word of the name behind a capital sigma. -/
theorem startsWith_lower_append (seed rest : String) :
    startsWith (lower (seed ++ rest)) (lower seed) = true ↔
      ¬ CutsWord [] seed.toList rest.toList := by
  unfold lower
  rw [startsWith_iff, String.toList_ofList, String.toList_ofList, String.toList_append,
    lowerFrom_isPrefix_iff]

end Text

namespace Completion

/-! ### The order of keys -/

/-- A name comes before another: in lower case, or as it is written if they are the same there. -/
def Precedes (a b : String) : Prop :=
  Text.lower a < Text.lower b ∨ (Text.lower a = Text.lower b ∧ a ≤ b)

attribute [ext] Key

namespace Key

theorem le_iff {a b : Key} :
    a.le b = true ↔ (a.apart = false ∧ b.apart = true) ∨
      (a.apart = b.apart ∧
        (a.lowered < b.lowered ∨ (a.lowered = b.lowered ∧ a.name ≤ b.name))) := by
  unfold le
  by_cases happart : a.apart = b.apart
  · have hnot : ¬ (a.apart = false ∧ b.apart = true) := by
      rintro ⟨ha, hb⟩
      rw [ha, hb] at happart
      simp at happart
    rw [ite_cond_eq_true _ _ (eq_true happart), or_iff_right hnot, and_iff_right happart]
    by_cases hlowered : a.lowered = b.lowered
    · rw [ite_cond_eq_true _ _ (eq_true hlowered)]
      simp [hlowered]
    · rw [ite_cond_eq_false _ _ (eq_false hlowered)]
      simp [hlowered]
  · rw [ite_cond_eq_false _ _ (eq_false happart)]
    cases ha : a.apart <;> cases hb : b.apart <;> simp_all

theorem le_trans {a b c : Key} (hab : a.le b = true) (hbc : b.le c = true) : a.le c = true := by
  rw [le_iff] at *
  rcases hab with ⟨ha, hb⟩ | ⟨happart, hab⟩
  · rcases hbc with ⟨hb', -⟩ | ⟨hbc, -⟩
    · simp [hb] at hb'
    · exact .inl ⟨ha, hbc ▸ hb⟩
  · rcases hbc with ⟨hb, hc⟩ | ⟨happart', hbc⟩
    · exact .inl ⟨happart.trans hb, hc⟩
    · refine .inr ⟨happart.trans happart', ?_⟩
      rcases hab with hab | ⟨hab, hname⟩ <;> rcases hbc with hbc | ⟨hbc, hname'⟩
      · exact .inl (String.lt_trans hab hbc)
      · exact .inl (hbc ▸ hab)
      · exact .inl (hab ▸ hbc)
      · exact .inr ⟨hab.trans hbc, String.le_trans hname hname'⟩

theorem le_total (a b : Key) : (a.le b || b.le a) = true := by
  rw [Bool.or_eq_true, le_iff, le_iff]
  by_cases happart : a.apart = b.apart
  · by_cases hlowered : a.lowered = b.lowered
    · rcases String.le_total a.name b.name with h | h
      · exact .inl (.inr ⟨happart, .inr ⟨hlowered, h⟩⟩)
      · exact .inr (.inr ⟨happart.symm, .inr ⟨hlowered.symm, h⟩⟩)
    · by_cases hlt : a.lowered < b.lowered
      · exact .inl (.inr ⟨happart, .inl hlt⟩)
      · refine .inr (.inr ⟨happart.symm, .inl ?_⟩)
        have hle := String.not_lt.mp hlt
        exact String.not_le.mp fun h => hlowered (String.le_antisymm h hle)
  · cases ha : a.apart <;> cases hb : b.apart <;> simp_all

/-- Keys of which neither comes after the other are the same. -/
theorem le_antisymm {a b : Key} (hab : a.le b = true) (hba : b.le a = true) : a = b := by
  rw [le_iff] at *
  rcases hab with ⟨ha, hb⟩ | ⟨happart, hab⟩
  · simp [ha, hb] at hba
  · rcases hba with ⟨hb, ha⟩ | ⟨-, hba⟩
    · simp [ha, hb] at happart
    · rcases hab with hab | ⟨hlowered, hname⟩
      · rcases hba with hba | ⟨hba, -⟩
        · exact absurd hba (String.lt_asymm hab)
        · exact absurd (hba ▸ hab) (String.lt_irrefl _)
      · rcases hba with hba | ⟨-, hname'⟩
        · exact absurd (hlowered ▸ hba) (String.lt_irrefl _)
        · exact Key.ext happart hlowered (String.le_antisymm hname hname')

end Key

/-! ### Stable sorting -/

section Stable

variable {α : Type} {key : α → Key}

/-- Two lists in the order of their keys are the same if they have the same elements in the same
order for each key. -/
theorem eq_of_filter_key_eq {xs ys : List α} (hxs : xs.Pairwise fun a b => (key a).le (key b))
    (hys : ys.Pairwise fun a b => (key a).le (key b))
    (h : ∀ k, xs.filter (key · = k) = ys.filter (key · = k)) : xs = ys := by
  induction xs generalizing ys with
  | nil =>
    refine (List.eq_nil_iff_forall_not_mem.mpr fun b hb => ?_).symm
    have hmem : b ∈ ys.filter (key · = key b) := List.mem_filter.mpr ⟨hb, by simp⟩
    rw [← h] at hmem
    simp at hmem
  | cons a xs ih =>
    have ha : a ∈ ys := by
      have hmem : a ∈ (a :: xs).filter (key · = key a) := by simp
      rw [h] at hmem
      exact List.mem_of_mem_filter hmem
    cases ys with
    | nil => simp at ha
    | cons b ys =>
      have hb : b ∈ a :: xs := by
        have hmem : b ∈ (b :: ys).filter (key · = key b) := by simp
        rw [← h] at hmem
        exact List.mem_of_mem_filter hmem
      rw [List.pairwise_cons] at hxs hys
      -- each of the two heads comes before the other
      have hkey : key a = key b := by
        rcases List.mem_cons.mp ha with rfl | ha
        · rfl
        · rcases List.mem_cons.mp hb with rfl | hb
          · rfl
          · exact Key.le_antisymm (hxs.1 b hb) (hys.1 a ha)
      have hhead := h (key a)
      rw [List.filter_cons_of_pos (by simp), List.filter_cons_of_pos (by simp [hkey]),
        List.cons.injEq] at hhead
      obtain ⟨rfl, -⟩ := hhead
      congr 1
      refine ih hxs.2 hys.2 fun k => ?_
      have hk := h k
      by_cases e : key a = k
      · rw [List.filter_cons_of_pos (by simpa using e), List.filter_cons_of_pos (by simpa using e),
          List.cons.injEq] at hk
        exact hk.2
      · rwa [List.filter_cons_of_neg (by simpa using e),
          List.filter_cons_of_neg (by simpa using e)] at hk

variable (name : α → String) (seed : String) (xs : List α)

/-- Whether a candidate is ranked before another or has the same key. -/
def ahead (a b : α) : Bool :=
  (Key.of seed (name a)).le (Key.of seed (name b))

theorem ahead_trans (a b c : α) (hab : ahead name seed a b = true)
    (hbc : ahead name seed b c = true) : ahead name seed a c = true :=
  Key.le_trans hab hbc

theorem ahead_total (a b : α) : (ahead name seed a b || ahead name seed b a) = true :=
  Key.le_total _ _

theorem pairwise_rank : (rank name seed xs).Pairwise fun a b => ahead name seed a b = true :=
  List.pairwise_mergeSort (ahead_trans name seed) (ahead_total name seed) xs

theorem rank_perm : (rank name seed xs).Perm xs :=
  List.mergeSort_perm xs _

/-- Ranking leaves candidates in their order if their keys are the same. -/
theorem filter_key_rank (k : Key) :
    (rank name seed xs).filter (fun a => Key.of seed (name a) = k) =
      xs.filter (fun a => Key.of seed (name a) = k) := by
  have hsame : (xs.filter fun a => Key.of seed (name a) = k).Pairwise
      fun a b => ahead name seed a b = true := by
    refine List.pairwise_of_forall_mem_list fun a ha b hb => ?_
    have ha := of_decide_eq_true (List.mem_filter.mp ha).2
    have hb := of_decide_eq_true (List.mem_filter.mp hb).2
    have hself := Key.le_total k k
    rw [Bool.or_self] at hself
    rwa [ahead, ha, hb]
  -- so they are a sublist of the ranked list, and it has no more candidates of this key
  have hsub : (xs.filter fun a => Key.of seed (name a) = k).Sublist (rank name seed xs) :=
    List.sublist_mergeSort (ahead_trans name seed) (ahead_total name seed) hsame
      List.filter_sublist
  have hsub := hsub.filter fun a => decide (Key.of seed (name a) = k)
  rw [List.filter_filter] at hsub
  simp only [Bool.and_self] at hsub
  refine (hsub.eq_of_length ?_).symm
  exact ((rank_perm name seed xs).filter _).length_eq.symm

/-- Leaving candidates out and ranking can be done in either order. -/
theorem filter_rank (p : α → Bool) :
    (rank name seed xs).filter p = rank name seed (xs.filter p) := by
  have hxs : ((rank name seed xs).filter p).Pairwise fun a b => ahead name seed a b = true :=
    (pairwise_rank name seed xs).filter p
  refine eq_of_filter_key_eq hxs (pairwise_rank name seed _) fun k => ?_
  rw [filter_key_rank, List.filter_comm, filter_key_rank, List.filter_comm]

end Stable

/-! ### The two blocks -/

section Blocks

variable {α : Type} (name : α → String) (seed : String)

/-- Whether the name of a candidate starts with the typed text, whatever the case of either. -/
def leads (a : α) : Bool :=
  Text.startsWith (Text.lower (name a)) (Text.lower seed)

/-- `ranked` is the answer to a typed text: the candidates that match it, best matches first. -/
structure Ranked (candidates ranked : List α) : Prop where
  /-- The candidates whose name contains the text, whatever the case of either, and no others. -/
  perm : ranked.Perm (candidates.filter fun a =>
    (Text.lower seed).toList <:+: (Text.lower (name a)).toList)
  /-- Those whose name starts with the text are a block of their own at the front. -/
  blocks : ranked = ranked.filter (leads name seed) ++ ranked.filter (!leads name seed ·)
  leading : (ranked.filter (leads name seed)).Pairwise fun a b => Precedes (name a) (name b)
  others : (ranked.filter (!leads name seed ·)).Pairwise fun a b => Precedes (name a) (name b)
  /-- Candidates of the same name keep their order. -/
  stable : ∀ text, ranked.filter (name · = text) =
    candidates.filter fun a =>
      name a = text ∧ (Text.lower seed).toList <:+: (Text.lower (name a)).toList
  /-- A candidate whose name starts with the text as it was typed stands in the leading block if and
  only if the text does not cut a word of the name behind a capital sigma. -/
  typed : ∀ a ∈ candidates, ∀ rest, name a = seed ++ rest →
    (a ∈ ranked.filter (leads name seed) ↔ ¬ Text.CutsWord [] seed.toList rest.toList)

variable {name seed}

theorem ahead_iff {a b : α} :
    ahead name seed a b = true ↔ (leads name seed a = true ∧ leads name seed b = false) ∨
      (leads name seed a = leads name seed b ∧ Precedes (name a) (name b)) := by
  rw [ahead, Key.le_iff, Key.of, Key.of, leads, leads]
  simp only [Bool.not_eq_false', Bool.not_eq_true', Bool.not_inj_iff, Precedes]

/-- In an ordered list, the names that start with the typed text come first. -/
theorem eq_blocks_of_pairwise {xs : List α}
    (h : xs.Pairwise fun a b => ahead name seed a b = true) :
    xs = xs.filter (leads name seed) ++ xs.filter (!leads name seed ·) := by
  induction xs with
  | nil => rfl
  | cons a rest ih =>
    rw [List.pairwise_cons] at h
    cases ha : leads name seed a with
    | true =>
      rw [List.filter_cons_of_pos ha, List.filter_cons_of_neg (by simp [ha]), List.cons_append,
        ← ih h.2]
    | false =>
      -- behind a name that does not start with the text there is none that does
      have hrest : ∀ b ∈ rest, leads name seed b = false := by
        intro b hb
        rcases ahead_iff.mp (h.1 b hb) with ⟨ha', -⟩ | ⟨hab, -⟩
        · simp [ha] at ha'
        · rw [← hab, ha]
      have hnone : (a :: rest).filter (leads name seed) = [] := by
        rw [List.filter_eq_nil_iff, List.forall_mem_cons]
        exact ⟨by simp [ha], fun b hb => by simp [hrest b hb]⟩
      have hall : (a :: rest).filter (!leads name seed ·) = a :: rest := by
        rw [List.filter_eq_self, List.forall_mem_cons]
        exact ⟨by simp [ha], fun b hb => by simp [hrest b hb]⟩
      rw [hnone, hall, List.nil_append]

/-- Candidates that agree on whether they lead are ordered by their names. -/
theorem pairwise_precedes {xs : List α} {leading : Bool}
    (h : xs.Pairwise fun a b => ahead name seed a b = true)
    (hxs : ∀ a ∈ xs, leads name seed a = leading) :
    xs.Pairwise fun a b => Precedes (name a) (name b) := by
  refine h.imp_of_mem fun {a b} ha hb hab => ?_
  rcases ahead_iff.mp hab with ⟨ha', hb'⟩ | ⟨-, hab⟩
  · rw [hxs a ha] at ha'
    rw [hxs b hb, ha'] at hb'
    simp at hb'
  · exact hab

end Blocks

/-! ### The answer to a typed text -/

section Suggest

variable {α : Type} (name : α → String) (seed : String) (candidates : List α)

theorem select_eq :
    select name seed candidates = candidates.filter fun a =>
      (Text.lower seed).toList <:+: (Text.lower (name a)).toList := by
  unfold select
  refine List.filter_congr fun a _ => ?_
  rw [Bool.eq_iff_iff, Text.contains_iff, decide_eq_true_eq]

theorem ranked_suggest : Ranked name seed candidates (suggest name seed candidates) := by
  have hsorted : (suggest name seed candidates).Pairwise fun a b => ahead name seed a b = true :=
    pairwise_rank name seed _
  have hperm : (suggest name seed candidates).Perm (select name seed candidates) :=
    rank_perm name seed _
  refine ⟨select_eq name seed candidates ▸ hperm, eq_blocks_of_pairwise hsorted, ?_, ?_, ?_, ?_⟩
  · exact pairwise_precedes (hsorted.filter _) fun a ha => (List.mem_filter.mp ha).2
  · exact pairwise_precedes (hsorted.filter _) fun a ha => by
      simpa using (List.mem_filter.mp ha).2
  · intro text
    have hkey : ∀ a : α, (name a = text) = (Key.of seed (name a) = Key.of seed text) := by
      intro a
      refine propext ⟨fun e => congrArg (Key.of seed) e, fun e => congrArg Key.name e⟩
    simp only [hkey]
    unfold suggest
    rw [filter_key_rank, select_eq, List.filter_filter]
    simp only [Bool.decide_and]
  · rintro a ha rest hname
    rw [List.mem_filter, leads, hname, Text.startsWith_lower_append, hperm.mem_iff, select_eq,
      List.mem_filter, decide_eq_true_eq, hname, and_iff_right_iff_imp]
    -- a name that starts with the text contains it
    intro hcut
    refine ⟨ha, ?_⟩
    rw [← Text.startsWith_lower_append, Text.startsWith_iff] at hcut
    exact hcut.isInfix

/-- If no two candidates have the same name, their order does not matter. -/
theorem suggest_of_perm {others : List α} (hperm : others.Perm candidates)
    (hnodup : (candidates.map name).Nodup) :
    suggest name seed others = suggest name seed candidates := by
  have hall : (suggest name seed others).Perm (suggest name seed candidates) :=
    (rank_perm name seed _).trans ((hperm.filter _).trans (rank_perm name seed _).symm)
  refine List.Perm.eq_of_pairwise ?_ (pairwise_rank name seed _) (pairwise_rank name seed _) hall
  intro a b ha hb hab hba
  have hmem : ∀ c ∈ suggest name seed candidates, c ∈ candidates := fun c hc =>
    List.mem_of_mem_filter ((rank_perm name seed _).mem_iff.mp hc)
  have hname : name a = name b := congrArg Key.name (Key.le_antisymm hab hba)
  exact List.inj_on_of_nodup_map hnodup (hmem a (hall.mem_iff.mp ha)) (hmem b hb) hname

end Suggest

/-- **Ranking.**  What is offered for a typed text is ranked by it; the candidates can be ranked
first and chosen afterwards; and if no two of them have the same name, it does not matter in which
order they are given. -/
theorem suggest_ranked {α : Type} (name : α → String) (seed : String) (candidates : List α) :
    Ranked name seed candidates (suggest name seed candidates) ∧
      select name seed (rank name seed candidates) = suggest name seed candidates ∧
      ((candidates.map name).Nodup → ∀ others : List α, others.Perm candidates →
        suggest name seed others = suggest name seed candidates) := by
  refine ⟨ranked_suggest name seed candidates, ?_, ?_⟩
  · exact filter_rank name seed candidates _
  · exact fun hnodup others hperm => suggest_of_perm name seed candidates hperm hnodup

theorem suggest_ranked_titles :
    (["setTitle", "toString", "getTitle"].map id).Nodup ∧
      suggest id "t" ["getTitle", "setTitle", "toString"] =
        suggest id "t" ["setTitle", "toString", "getTitle"] :=
  ⟨by decide, (suggest_ranked id "t" ["setTitle", "toString", "getTitle"]).2.2 (by decide) _
    (by decide)⟩

/-- A name that starts with the typed text is not offered for it: in the text the sigma ends a word,
and in the name it does not. -/
theorem not_typed_offered :
    ¬ ∀ a ∈ ["ΑΣΑ"], Text.startsWith a "ΑΣ" = true → a ∈ suggest id "ΑΣ" ["ΑΣΑ"] := by
  decide +kernel

end Completion

end ScriptScope
