import Mathlib.Data.List.Nodup
import ScriptScope.Module.Index
import ScriptScope.Proofs.Lists

/-!
# The memory of the module index

An index answers as if it had no memory: whatever it is asked and told, as long as the disk changes
only when it forgets everything, it gives the answers of an index that looks every module up anew
(`run_eq_cacheless`).  What it remembers are the last modules that were looked up with success, in
the order of their last use, and a lookup that fails changes nothing.

`Session` is an index at work on a disk.  `Cacheless` is what it is compared with: the search roots,
the disk, and the names that were looked up with success since everything was last forgotten.
`Agrees` relates the two; every request preserves it (`Agrees.step`).
-/

namespace ScriptScope

/-! ### Last uses -/

/-- First occurrences without those that have one more key. -/
theorem firstByFrom_cons_seen {α β : Type} [DecidableEq β] (key : α → β) (k : β) (seen : List β)
    (xs : List α) :
    firstByFrom key (k :: seen) xs = (firstByFrom key seen xs).filter (fun a => key a ≠ k) := by
  induction xs generalizing seen with
  | nil => rfl
  | cons a rest ih =>
    rw [firstByFrom_cons, firstByFrom_cons key seen]
    by_cases hs : key a ∈ seen
    · simp only [List.mem_cons, hs, or_true, ↓reduceIte, ih]
    · by_cases hk : key a = k
      · subst hk
        simp [hs, ih, List.filter_filter]
      · have hswap : firstByFrom key (key a :: k :: seen) rest =
            firstByFrom key (k :: key a :: seen) rest := by
          refine firstByFrom_congr key (fun j => ?_) rest
          simp only [List.mem_cons]
          exact or_left_comm
        simp [hs, hk, hswap, ih]

/-- Taking some elements of a list and leaving one out of them. -/
theorem take_filter_of_mem {α : Type} [DecidableEq α] {x : α} {xs : List α} {n : Nat}
    (hnodup : xs.Nodup) (hmem : x ∈ xs.take (n + 1)) :
    (xs.filter (· ≠ x)).take n = (xs.take (n + 1)).filter (· ≠ x) := by
  induction xs generalizing n with
  | nil => simp
  | cons y rest ih =>
    rw [List.nodup_cons] at hnodup
    rw [List.take_succ_cons]
    by_cases hy : y = x
    · -- it stands here, and so nowhere else
      subst hy
      have hrest : ∀ zs : List α, zs ⊆ rest → zs.filter (· ≠ y) = zs := by
        intro zs hzs
        refine List.filter_eq_self.mpr fun z hz => ?_
        have hne : z ≠ y := fun e => hnodup.1 (e ▸ hzs hz)
        simpa using hne
      rw [List.filter_cons_of_neg (by simp), List.filter_cons_of_neg (by simp),
        hrest rest (List.Subset.refl _), hrest (rest.take n) (List.take_subset n rest)]
    · rw [List.filter_cons_of_pos (by simpa using hy), List.filter_cons_of_pos (by simpa using hy)]
      rw [List.take_succ_cons, List.mem_cons] at hmem
      have hmem := hmem.resolve_left (Ne.symm hy)
      cases n with
      | zero => simp at hmem
      | succ n => rw [List.take_succ_cons, ih hnodup.2 hmem]

theorem take_filter_of_not_mem {α : Type} [DecidableEq α] {x : α} {xs : List α} {n : Nat}
    (hno : x ∉ xs.take n) : (xs.filter (· ≠ x)).take n = xs.take n := by
  induction xs generalizing n with
  | nil => rfl
  | cons y rest ih =>
    cases n with
    | zero => simp
    | succ n =>
      rw [List.take_succ_cons, List.mem_cons, not_or] at hno
      rw [List.filter_cons_of_pos (by simpa using Ne.symm hno.1), List.take_succ_cons,
        List.take_succ_cons, ih hno.2]

namespace Module

/-- The last so many different names of a history, in the order of their last use. -/
def mostRecent (limit : Nat) (history : List String) : List String :=
  ((firstBy id history.reverse).take limit).reverse

theorem length_mostRecent_le (limit : Nat) (history : List String) :
    (mostRecent limit history).length ≤ limit := by
  rw [mostRecent, List.length_reverse]
  exact List.length_take_le ..

theorem nodup_firstBy_id (xs : List String) : (firstBy id xs).Nodup := by
  simpa using nodup_firstBy_keys id xs

theorem nodup_mostRecent (limit : Nat) (history : List String) :
    (mostRecent limit history).Nodup := by
  rw [mostRecent, List.nodup_reverse]
  exact (nodup_firstBy_id _).sublist (List.take_sublist ..)

/-- The name that was used last comes first among the last uses. -/
theorem firstBy_reverse_concat (history : List String) (name : String) :
    firstBy id (history ++ [name]).reverse =
      name :: (firstBy id history.reverse).filter (· ≠ name) := by
  rw [List.reverse_concat, firstBy, firstByFrom_cons]
  simp only [List.not_mem_nil, ↓reduceIte, id_eq]
  rw [firstByFrom_cons_seen]
  rfl

/-- A recent name that is used again comes to stand at the end. -/
theorem mostRecent_concat_of_mem {limit : Nat} {history : List String} {name : String}
    (h : name ∈ mostRecent limit history) :
    mostRecent limit (history ++ [name]) =
      (mostRecent limit history).filter (· ≠ name) ++ [name] := by
  rw [mostRecent, List.mem_reverse] at h
  cases limit with
  | zero => simp at h
  | succ n =>
    unfold mostRecent
    rw [firstBy_reverse_concat, List.take_succ_cons, List.reverse_cons,
      take_filter_of_mem (nodup_firstBy_id _) h, List.filter_reverse]

/-- Another name is added at the end, and the oldest one goes if there are too many. -/
theorem mostRecent_concat_of_not_mem {limit : Nat} {history : List String} {name : String}
    (h : name ∉ mostRecent limit history) :
    mostRecent limit (history ++ [name]) = (mostRecent limit history ++ [name]).drop
      ((mostRecent limit history).length + 1 - limit) := by
  rw [mostRecent, List.mem_reverse] at h
  unfold mostRecent
  rw [firstBy_reverse_concat]
  set uses := firstBy id history.reverse
  cases limit with
  | zero => simp
  | succ n =>
    have hno : name ∉ uses.take n :=
      fun hmem => h ((List.take_subset_take_left uses (Nat.le_succ n)) hmem)
    have hlen : (uses.take (n + 1)).length ≤ n + 1 := List.length_take_le ..
    rw [List.take_succ_cons, List.reverse_cons, take_filter_of_not_mem hno, List.length_reverse,
      Nat.add_sub_add_right, List.drop_append_of_le_length (by rw [List.length_reverse]; omega),
      List.drop_reverse, List.take_take]
    congr 2
    rw [List.take_eq_take_iff, List.length_take]
    omega

/-! ### What a memory holds -/

namespace Memory

/-- The names that are remembered, oldest use first. -/
def names (memory : Memory) : List String :=
  memory.map (·.1)

theorem mem_of_get? {memory : Memory} {name : String} {found : Option Loaded}
    (h : memory.get? name = some found) : (name, found) ∈ memory := by
  obtain ⟨e, he, rfl⟩ := Option.map_eq_some_iff.mp h
  have hname : e.1 = name := by simpa using List.find?_some he
  rw [← hname]
  exact List.mem_of_find?_eq_some he

theorem get?_eq_none_iff {memory : Memory} {name : String} :
    memory.get? name = none ↔ name ∉ memory.names := by
  rw [get?, Option.map_eq_none_iff, List.find?_eq_none, names, List.mem_map, not_exists]
  refine forall_congr' fun e => ?_
  rw [not_and, beq_iff_eq]

/-- A name that is used goes to the end. -/
theorem names_touch {memory : Memory} {name : String} (hnodup : memory.names.Nodup)
    (hmem : name ∈ memory.names) :
    (memory.touch name).names = memory.names.filter (· ≠ name) ++ [name] := by
  have hothers : (memory.filter (fun e => e.1 != name)).map (·.1) =
      memory.names.filter (· ≠ name) := by
    rw [names, List.filter_map]
    congr 1
    refine List.filter_congr fun e _ => ?_
    rw [Bool.eq_iff_iff]
    simp
  have hself : (memory.filter (fun e => e.1 == name)).map (·.1) = [name] := by
    have hfilter : (memory.filter (fun e => e.1 == name)).map (·.1) =
        memory.names.filter (· == name) := by
      rw [names, List.filter_map]
      rfl
    rw [hfilter, List.filter_beq, List.count_eq_one_of_mem hnodup hmem]
    rfl
  rw [touch, names, List.map_append, hothers, hself]

theorem mem_of_mem_touch {memory : Memory} {name : String} {e : String × Option Loaded}
    (h : e ∈ memory.touch name) : e ∈ memory := by
  rcases List.mem_append.mp h with h | h <;> exact List.mem_of_mem_filter h

/-- A new name is added at the end, and the oldest ones go if there are too many. -/
theorem names_insert (memory : Memory) (limit : Nat) (name : String) (found : Option Loaded) :
    (memory.insert limit name found).names =
      (memory.names ++ [name]).drop (memory.names.length + 1 - limit) := by
  simp [insert, names]

theorem mem_of_mem_insert {memory : Memory} {limit : Nat} {name : String}
    {found : Option Loaded} {e : String × Option Loaded} (h : e ∈ memory.insert limit name found) :
    e ∈ memory ∨ e = (name, found) := by
  rcases List.mem_append.mp (List.mem_of_mem_drop h) with h | h
  · exact .inl h
  · exact .inr (List.mem_singleton.mp h)

end Memory

/-! ### Single lookups -/

/-- A module file of the disk that cannot be read, and the complaint about it. -/
def Unreadable (disk : Disk) (e : Error) : Prop :=
  ∃ path failure, disk.isFile path = true ∧ disk.readText path = .error failure ∧
    e = unreadable path failure

theorem unreadable_of_namesOfFile {disk : Disk} {path : Path} {e : Error}
    (hfile : disk.isFile path = true) (h : namesOfFile disk path = .error e) :
    Unreadable disk e := by
  unfold namesOfFile at h
  split at h
  · cases h
  · rename_i failure hread
    cases h
    exact ⟨path, failure, hfile, hread, rfl⟩

theorem unreadable_of_loadBelow {disk : Disk} {modulePath : String} {root : Path} {e : Error}
    (h : loadBelow disk modulePath root = .error e) : Unreadable disk e := by
  -- both kinds of file fail with the reading of their names alone
  have hread : ∀ {path : Path} {found : List String → Loaded}, disk.isFile path = true →
      (do let names ← namesOfFile disk path; return some (found names)) = Except.error e →
      Unreadable disk e := by
    intro path found hfile h
    cases hnames : namesOfFile disk path with
    | ok names => simp [hnames, Bind.bind, Except.bind, pure, Except.pure] at h
    | error e' =>
      have he : e' = e := by simpa [hnames, Bind.bind, Except.bind] using h
      exact unreadable_of_namesOfFile hfile (he ▸ hnames)
  unfold loadBelow at h
  dsimp only at h
  split at h
  · rename_i hfile
    exact hread hfile h
  · split at h
    · rename_i hfile
      exact hread hfile h
    · cases h

/-- A search fails only over a module file that cannot be read. -/
theorem unreadable_of_load {disk : Disk} {modulePath : String} {roots : List Path} {e : Error}
    (h : load disk modulePath roots = .error e) : Unreadable disk e := by
  induction roots with
  | nil => cases h
  | cons root rest ih =>
    unfold load at h
    split at h
    · exact ih h
    · exact unreadable_of_loadBelow h

namespace Index

/-- Watching changes nothing but the directories that are watched. -/
theorem exists_watchFound_eq (ix : Index) (disk : Disk) (found : Option Loaded) :
    ∃ watched, ix.watchFound disk found = { ix with watched } := by
  unfold watchFound
  split
  · exact ⟨ix.watched, rfl⟩
  · unfold watch
    split
    · exact ⟨ix.watched, rfl⟩
    · dsimp only
      split
      · exact ⟨ix.watched, rfl⟩
      · exact ⟨_, rfl⟩

/-- What a lookup answers, and what becomes of the index. -/
inductive Looks (ix : Index) (disk : Disk) (modulePath : String) :
    Except Error (Option Loaded) × Index → Prop
  | noPath (path : isPath modulePath = false) : Looks ix disk modulePath (.ok none, ix)
  | remembered {found : Option Loaded} (path : isPath modulePath = true)
    (known : ix.memory.get? modulePath = some found) :
    Looks ix disk modulePath (.ok found, { ix with memory := ix.memory.touch modulePath })
  | failed {e : Error} (path : isPath modulePath = true)
    (unknown : ix.memory.get? modulePath = none) (loaded : load disk modulePath ix.roots = .error e) :
    Looks ix disk modulePath (.error e, ix)
  | searched {found : Option Loaded} (watched : Option (List Path))
    (path : isPath modulePath = true) (unknown : ix.memory.get? modulePath = none)
    (loaded : load disk modulePath ix.roots = .ok found) :
    Looks ix disk modulePath
      (.ok found, { ix with memory := ix.memory.insert ix.limit modulePath found, watched })

theorem looks_lookup (ix : Index) (disk : Disk) (modulePath : String) :
    Looks ix disk modulePath (ix.lookup disk modulePath) := by
  unfold lookup
  split
  · rename_i hpath
    split
    · rename_i found hknown
      exact .remembered hpath hknown
    · rename_i hunknown
      split
      · rename_i e hload
        exact .failed hpath hunknown hload
      · rename_i found hload
        obtain ⟨watched, hwatched⟩ := exists_watchFound_eq
          { ix with memory := ix.memory.insert ix.limit modulePath found } disk found
        rw [hwatched]
        exact .searched watched hpath hunknown hload
  · rename_i hpath
    exact .noPath (Bool.not_eq_true _ ▸ hpath)

/-- Without a memory, the answer is what the search roots yield. -/
theorem lookup_of_memory_eq_nil {ix : Index} (h : ix.memory = []) (disk : Disk)
    (modulePath : String) : (ix.lookup disk modulePath).1 =
      if isPath modulePath then load disk modulePath ix.roots else .ok none := by
  have hlooks := ix.looks_lookup disk modulePath
  generalize ix.lookup disk modulePath = outcome at hlooks
  cases hlooks with
  | noPath path => simp [path]
  | remembered path known => simp [h, Memory.get?] at known
  | failed path unknown loaded => simp [path, loaded]
  | searched watched path unknown loaded => simp [path, loaded]

/-- A lookup that fails leaves the index as it was, and there is a file that cannot be read. -/
theorem lookup_of_error {ix : Index} {disk : Disk} {modulePath : String} {e : Error}
    (h : (ix.lookup disk modulePath).1 = .error e) :
    (ix.lookup disk modulePath).2 = ix ∧ Unreadable disk e := by
  have hlooks := ix.looks_lookup disk modulePath
  generalize ix.lookup disk modulePath = outcome at h hlooks
  cases hlooks with
  | noPath path => cases h
  | remembered path known => cases h
  | failed path unknown loaded =>
    cases h
    exact ⟨rfl, unreadable_of_load loaded⟩
  | searched watched path unknown loaded => cases h

end Index

/-! ### An index at work -/

/-- What can be asked of an index or told to it.  Whoever makes it forget everything may have changed
the disk. -/
inductive Request where
  | lookup (modulePath : String)
  | members (modulePath : String)
  | addRoot (root : Path) (disk : Disk)
  | clear (disk : Disk)
  /-- A change is noticed, which matters only if it concerns a module. -/
  | notice (change : Change) (disk : Disk)

/-- What an index answers. -/
inductive Answer where
  | found (result : Except Error (Option Loaded))
  | members (result : Except Error (Option (List String)))
  | done

/-- The failure that an answer reports. -/
def Answer.error? : Answer → Option Error
  | .found (.error e) => some e
  | .members (.error e) => some e
  | _ => none

/-- An index at work on a disk. -/
structure Session where
  index : Index
  disk : Disk

namespace Session

/-- Meets a request. -/
def step (s : Session) : Request → Answer × Session
  | .lookup modulePath =>
    let (result, index) := s.index.lookup s.disk modulePath
    (.found result, { s with index })
  | .members modulePath =>
    let (result, index) := s.index.members s.disk modulePath
    (.members result, { s with index })
  | .addRoot root disk => (.done, ⟨s.index.addRoot root, disk⟩)
  | .clear disk => (.done, ⟨s.index.clear, disk⟩)
  | .notice change disk =>
    (.done, ⟨s.index.notice change, if change.concernsModule then disk else s.disk⟩)

/-- Meets requests in turn. -/
def run (s : Session) : List Request → List Answer × Session
  | [] => ([], s)
  | q :: rest =>
    let (answers, last) := (s.step q).2.run rest
    ((s.step q).1 :: answers, last)

/-- A request that fails changes nothing, and there is a file that cannot be read. -/
theorem step_of_error {s : Session} {q : Request} {e : Error} (h : (s.step q).1.error? = some e) :
    (s.step q).2 = s ∧ Unreadable s.disk e := by
  have hlooked : ∀ modulePath, (s.index.lookup s.disk modulePath).1 = .error e →
      { s with index := (s.index.lookup s.disk modulePath).2 } = s ∧ Unreadable s.disk e := by
    intro modulePath hfound
    obtain ⟨hsame, hreason⟩ := Index.lookup_of_error hfound
    rw [hsame]
    exact ⟨rfl, hreason⟩
  cases q with
  | lookup modulePath =>
    refine hlooked modulePath ?_
    cases hresult : (s.index.lookup s.disk modulePath).1 with
    | ok found => simp [step, hresult, Answer.error?] at h
    | error e' => simpa [step, hresult, Answer.error?] using h
  | members modulePath =>
    refine hlooked modulePath ?_
    cases hresult : (s.index.lookup s.disk modulePath).1 with
    | ok found => simp [step, Index.members, hresult, Except.map, Answer.error?] at h
    | error e' => simpa [step, Index.members, hresult, Except.map, Answer.error?] using h
  | addRoot root disk => cases h
  | clear disk => cases h
  | notice change disk => cases h

end Session

/-! ### An index without memory -/

/-- What there is to know about an index that looks up every module anew, and the names that were
looked up with success since it was last told to forget. -/
structure Cacheless where
  watch : Bool
  limit : Nat
  roots : List Path
  disk : Disk
  history : List String := []

namespace Cacheless

/-- A new index with the present search roots. -/
def index (c : Cacheless) : Index :=
  .ofRoots c.roots c.watch c.limit

/-- Records a lookup, if it is one of a module and succeeds. -/
def record (c : Cacheless) (modulePath : String) : Cacheless :=
  match isPath modulePath, (c.index.lookup c.disk modulePath).1 with
  | true, .ok _ => { c with history := c.history ++ [modulePath] }
  | _, _ => c

/-- Meets a request. -/
def step (c : Cacheless) : Request → Answer × Cacheless
  | .lookup modulePath => (.found (c.index.lookup c.disk modulePath).1, c.record modulePath)
  | .members modulePath => (.members (c.index.members c.disk modulePath).1, c.record modulePath)
  | .addRoot root disk =>
    (.done, { c with roots := (c.index.addRoot root).roots, disk, history := [] })
  | .clear disk => (.done, { c with disk, history := [] })
  | .notice change disk =>
    (.done, if change.concernsModule then { c with disk, history := [] } else c)

/-- Meets requests in turn. -/
def run (c : Cacheless) : List Request → List Answer × Cacheless
  | [] => ([], c)
  | q :: rest =>
    let (answers, last) := (c.step q).2.run rest
    ((c.step q).1 :: answers, last)

theorem lookup_eq (c : Cacheless) (modulePath : String) :
    (c.index.lookup c.disk modulePath).1 =
      if isPath modulePath then load c.disk modulePath c.roots else .ok none :=
  Index.lookup_of_memory_eq_nil rfl c.disk modulePath

variable {c : Cacheless} {modulePath : String}

theorem record_of_not_isPath (h : isPath modulePath = false) : c.record modulePath = c := by
  simp [record, h]

theorem lookup_of_load {result : Except Error (Option Loaded)} (h : isPath modulePath = true)
    (hload : load c.disk modulePath c.roots = result) :
    (c.index.lookup c.disk modulePath).1 = result := by
  rw [lookup_eq, ite_cond_eq_true _ _ (eq_true h), hload]

theorem record_of_error {e : Error} (h : isPath modulePath = true)
    (hload : load c.disk modulePath c.roots = .error e) : c.record modulePath = c := by
  simp [record, lookup_of_load h hload]

theorem record_of_ok {found : Option Loaded} (h : isPath modulePath = true)
    (hload : load c.disk modulePath c.roots = .ok found) :
    c.record modulePath = { c with history := c.history ++ [modulePath] } := by
  simp [record, h, lookup_of_load h hload]

/-- The limit is set once and for all. -/
theorem limit_run (c : Cacheless) (requests : List Request) : (c.run requests).2.limit = c.limit := by
  have hrecord : ∀ (c : Cacheless) modulePath, (c.record modulePath).limit = c.limit := by
    intro c modulePath
    unfold record
    split <;> rfl
  have hstep : ∀ (c : Cacheless) q, (c.step q).2.limit = c.limit := by
    intro c q
    cases q with
    | lookup modulePath => exact hrecord c modulePath
    | members modulePath => exact hrecord c modulePath
    | addRoot root disk => rfl
    | clear disk => rfl
    | notice change disk =>
      unfold step
      dsimp only
      split <;> rfl
  induction requests generalizing c with
  | nil => rfl
  | cons q rest ih => exact (ih (c.step q).2).trans (hstep c q)

end Cacheless

/-! ### They agree -/

/-- An index at work remembers the last uses on record, each with what is found on the disk. -/
structure Agrees (s : Session) (c : Cacheless) : Prop where
  roots : s.index.roots = c.roots
  limit : s.index.limit = c.limit
  disk : s.disk = c.disk
  names : s.index.memory.names = mostRecent c.limit c.history
  known : ∀ e ∈ s.index.memory, load c.disk e.1 c.roots = .ok e.2

namespace Agrees

variable {s : Session} {c : Cacheless}

/-- Looking a module up gives the answer of the index without memory, and is recorded. -/
theorem lookup (h : Agrees s c) (modulePath : String) :
    (s.index.lookup s.disk modulePath).1 = (c.index.lookup c.disk modulePath).1 ∧
      Agrees { s with index := (s.index.lookup s.disk modulePath).2 } (c.record modulePath) := by
  have hlooks := s.index.looks_lookup s.disk modulePath
  generalize s.index.lookup s.disk modulePath = outcome at hlooks
  cases hlooks with
  | noPath path =>
    rw [Cacheless.record_of_not_isPath path, Cacheless.lookup_eq]
    exact ⟨by simp [path], h⟩
  | @remembered found path known =>
    have hmem := Memory.mem_of_get? known
    have hload := h.known _ hmem
    have hname : modulePath ∈ s.index.memory.names := List.mem_map_of_mem hmem
    rw [Cacheless.record_of_ok path hload, Cacheless.lookup_of_load path hload]
    refine ⟨rfl, h.roots, h.limit, h.disk, ?_, fun e he => h.known e (Memory.mem_of_mem_touch he)⟩
    have hnodup : s.index.memory.names.Nodup := by
      rw [h.names]
      exact nodup_mostRecent ..
    show (s.index.memory.touch modulePath).names = mostRecent c.limit (c.history ++ [modulePath])
    rw [Memory.names_touch hnodup hname, h.names,
      mostRecent_concat_of_mem (by rwa [← h.names])]
  | @failed e path unknown loaded =>
    rw [h.disk, h.roots] at loaded
    rw [Cacheless.record_of_error path loaded, Cacheless.lookup_of_load path loaded]
    exact ⟨rfl, h⟩
  | @searched found watched path unknown loaded =>
    rw [h.disk, h.roots] at loaded
    rw [Cacheless.record_of_ok path loaded, Cacheless.lookup_of_load path loaded]
    refine ⟨rfl, h.roots, h.limit, h.disk, ?_, fun e he => ?_⟩
    · have hno := Memory.get?_eq_none_iff.mp unknown
      show (s.index.memory.insert s.index.limit modulePath found).names =
        mostRecent c.limit (c.history ++ [modulePath])
      rw [Memory.names_insert, h.names, h.limit,
        mostRecent_concat_of_not_mem (by rwa [← h.names])]
    · rcases Memory.mem_of_mem_insert he with he | rfl
      · exact h.known e he
      · exact loaded

/-- An index that has forgotten everything agrees with an empty record. -/
theorem forgotten {ix : Index} {disk : Disk} (hroots : ix.roots = c.roots)
    (hlimit : ix.limit = c.limit) (hmemory : ix.memory = []) (hdisk : disk = c.disk)
    (hhistory : c.history = []) : Agrees ⟨ix, disk⟩ c where
  roots := hroots
  limit := hlimit
  disk := hdisk
  names := by simp [hmemory, hhistory, Memory.names, mostRecent, firstBy, firstByFrom]
  known := by simp [hmemory]

/-- Every request is met alike. -/
theorem step (h : Agrees s c) (q : Request) :
    (s.step q).1 = (c.step q).1 ∧ Agrees (s.step q).2 (c.step q).2 := by
  cases q with
  | lookup modulePath =>
    obtain ⟨hanswer, hnext⟩ := h.lookup modulePath
    exact ⟨congrArg Answer.found hanswer, hnext⟩
  | members modulePath =>
    obtain ⟨hanswer, hnext⟩ := h.lookup modulePath
    refine ⟨congrArg Answer.members ?_, hnext⟩
    show (s.index.lookup s.disk modulePath).1.map _ = (c.index.lookup c.disk modulePath).1.map _
    rw [hanswer]
  | addRoot root disk =>
    refine ⟨rfl, forgotten ?_ h.limit rfl rfl rfl⟩
    show (s.index.addRoot root).roots = (c.index.addRoot root).roots
    unfold Index.addRoot
    rw [h.roots]
    rfl
  | clear disk => exact ⟨rfl, forgotten h.roots h.limit rfl rfl rfl⟩
  | notice change disk =>
    refine ⟨rfl, ?_⟩
    unfold Session.step Cacheless.step Index.notice
    dsimp only
    split
    · exact forgotten h.roots h.limit rfl rfl rfl
    · exact h

/-- So is any number of requests. -/
theorem run (h : Agrees s c) (requests : List Request) :
    (s.run requests).1 = (c.run requests).1 ∧
      Agrees (s.run requests).2 (c.run requests).2 := by
  induction requests generalizing s c with
  | nil => exact ⟨rfl, h⟩
  | cons q rest ih =>
    obtain ⟨hanswer, hnext⟩ := h.step q
    obtain ⟨hanswers, hlast⟩ := ih hnext
    refine ⟨?_, hlast⟩
    show (s.step q).1 :: ((s.step q).2.run rest).1 = (c.step q).1 :: ((c.step q).2.run rest).1
    rw [hanswer, hanswers]

end Agrees

end Module

end ScriptScope
