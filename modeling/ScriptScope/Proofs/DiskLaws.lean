import Mathlib.Data.List.Induction
import Mathlib.Data.List.Nodup
import Mathlib.Data.List.Sort
import Mathlib.Data.String.Basic
import ScriptScope.Disk.Disk

/-!
# Laws of the disk

What stands at some names after a file is written or removed (`at?_write`, `at?_delete`), and which
names a directory lists (`mem_list`).  On a well-formed disk every file and every directory is in a
directory.  An `Edit` writes or removes one file; if it is possible, the disk stays well-formed
(`Edit.Possible.wellFormed`), and but for this file the edit brings at most directories that were
not there (`Edit.Possible.differsAt`).
-/

namespace ScriptScope

namespace Disk

variable {d : Disk} {p : Path} {names q : List String}

/-! ### Locating -/

/-- Follows one more part of a path. -/
def descend (rooted : Bool) (names : List String) (part : String) : Option (List String) :=
  if part = ".." then (if names.isEmpty && !rooted then none else some names.dropLast)
  else some (names ++ [part])

theorem locate_eq (p : Path) : locate p =
    (p.parts.foldlM (descend p.rooted) []).map
      (fun names => if p.rooted then "/" :: names else names) := rfl

/-- A name inside a directory comes after the names that lead there. -/
theorem locate_child (p : Path) {name : String} (h : name ≠ "..") :
    locate (p.child name) = (locate p).map (· ++ [name]) := by
  obtain ⟨rooted, parts⟩ := p
  rw [locate_eq, locate_eq]
  show ((parts ++ [name]).foldlM (descend rooted) []).map _ = _
  rw [List.foldlM_append]
  cases parts.foldlM (descend rooted) [] with
  | none => rfl
  | some found =>
    have hlast : [name].foldlM (descend rooted) found = some (found ++ [name]) := by
      simp [descend, h]
    show ([name].foldlM (descend rooted) found).map _ = _
    rw [hlast]
    cases rooted <;> rfl

/-- No double dots are left. -/
theorem not_mem_locate (h : locate p = some names) : ".." ∉ names := by
  have hfold : ∀ (parts found found' : List String), ".." ∉ found →
      parts.foldlM (descend p.rooted) found = some found' → ".." ∉ found' := by
    intro parts
    induction parts with
    | nil =>
      intro found found' hno hfound
      rwa [← Option.some.inj hfound]
    | cons part rest ih =>
      intro found found' hno hfound
      rw [List.foldlM_cons] at hfound
      obtain ⟨next, hnext, hrest⟩ := Option.bind_eq_some_iff.mp hfound
      refine ih next found' ?_ hrest
      unfold descend at hnext
      split at hnext
      · rw [Option.ite_none_left_eq_some, Option.some.injEq] at hnext
        rw [← hnext.2]
        exact fun hmem => hno (List.dropLast_subset _ hmem)
      · rename_i hpart
        rw [← Option.some.inj hnext, List.mem_append, List.mem_singleton, not_or]
        exact ⟨hno, fun e => hpart e.symm⟩
  rw [locate_eq, Option.map_eq_some_iff] at h
  obtain ⟨found, hfound, rfl⟩ := h
  have hno := hfold p.parts [] found (by simp) hfound
  split
  · rw [List.mem_cons, not_or]
    exact ⟨by decide, hno⟩
  · exact hno

/-! ### Reading and writing -/

@[simp] theorem at?_nil (d : Disk) : d.at? [] = some .directory := rfl

theorem at?_of_ne_nil (d : Disk) (h : names ≠ []) :
    d.at? names = (d.entries.find? (fun e => e.1 == names)).map (·.2) := by
  unfold at?
  rw [List.isEmpty_eq_false_iff.mpr h]
  rfl

/-- Something stands at some names if there is an entry for them. -/
theorem isSome_at?_iff (h : names ≠ []) :
    (d.at? names).isSome = true ↔ ∃ content, (names, content) ∈ d.entries := by
  rw [at?_of_ne_nil d h, Option.isSome_map, List.find?_isSome]
  constructor
  · rintro ⟨⟨found, content⟩, he, hname⟩
    rw [← eq_of_beq hname]
    exact ⟨content, he⟩
  · rintro ⟨content, he⟩
    exact ⟨(names, content), he, beq_self_eq_true _⟩

/-- Entries that are kept for some names are found as before. -/
theorem find?_filter_of_keeps (entries : List (List String × Content)) (keeps : List String → Bool)
    (h : keeps q = true) :
    (entries.filter (fun e => keeps e.1)).find? (fun e => e.1 == q) =
      entries.find? (fun e => e.1 == q) := by
  rw [List.find?_filter]
  congr 1
  funext e
  by_cases he : e.1 = q
  · simp [he, h]
  · simp [he]

/-- No entry is found for names whose entries are left out. -/
theorem find?_filter_of_drops (entries : List (List String × Content)) (keeps : List String → Bool)
    (h : keeps q = false) :
    (entries.filter (fun e => keeps e.1)).find? (fun e => e.1 == q) = none := by
  rw [List.find?_eq_none]
  intro e he hname
  have hkept := (List.mem_filter.mp he).2
  rw [eq_of_beq hname, h] at hkept
  exact Bool.false_ne_true hkept

theorem at?_put (d : Disk) (h : names ≠ []) (content : Content) (q : List String) :
    (d.put names content).at? q = if q = names then some content else d.at? q := by
  by_cases hq : q = []
  · rw [ite_cond_eq_false _ _ (eq_false fun e => h (e.symm.trans hq)), hq]
    rfl
  · rw [at?_of_ne_nil _ hq, at?_of_ne_nil _ hq, put, List.find?_append]
    by_cases e : q = names
    · rw [find?_filter_of_drops d.entries (· != names) (by simp [e]), e]
      simp
    · rw [find?_filter_of_keeps d.entries (· != names) (by simp [e])]
      simp [e, Ne.symm e]

/-- Makes a directory if there is nothing. -/
def ensure (d : Disk) (dir : List String) : Disk :=
  if (d.at? dir).isSome then d else d.put dir .directory

theorem at?_ensure (d : Disk) (dir q : List String) :
    (d.ensure dir).at? q = (d.at? q).or (if q = dir then some .directory else none) := by
  unfold ensure
  cases hdir : d.at? dir with
  | some content =>
    rw [Option.isSome_some, ite_cond_eq_true _ _ (eq_true rfl)]
    by_cases e : q = dir
    · rw [e, hdir]
      rfl
    · simp [e]
  | none =>
    have hne : dir ≠ [] := by
      rintro rfl
      simp at hdir
    rw [Option.isSome_none, ite_cond_eq_false _ _ (eq_false Bool.false_ne_true), at?_put d hne]
    by_cases e : q = dir
    · simp [e, hdir]
    · simp [e]

/-- Directories that are made in turn are there, and nothing else changes. -/
theorem at?_foldl_ensure (d : Disk) (dirs : List (List String)) (q : List String) :
    (dirs.foldl ensure d).at? q = (d.at? q).or (if q ∈ dirs then some .directory else none) := by
  induction dirs generalizing d with
  | nil => simp
  | cons dir rest ih =>
    rw [List.foldl_cons, ih, at?_ensure, Option.or_assoc]
    congr 1
    by_cases e : q = dir
    · simp [e]
    · simp [e]

/-- The directories that lead to some names. -/
theorem mem_parents_iff : q ∈ (List.range names.length).map (names.take ·) ↔
    q <+: names ∧ q ≠ names := by
  rw [List.mem_map]
  constructor
  · rintro ⟨n, hn, rfl⟩
    rw [List.mem_range] at hn
    refine ⟨List.take_prefix n names, fun e => ?_⟩
    have hlength := congrArg List.length e
    rw [List.length_take] at hlength
    omega
  · rintro ⟨hleads, hne⟩
    refine ⟨q.length, List.mem_range.mpr ?_, (List.prefix_iff_eq_take.mp hleads).symm⟩
    exact Nat.lt_of_le_of_ne hleads.length_le fun e => hne (hleads.eq_of_length e)

theorem write_of_locate (d : Disk) (bytes : List UInt8) (h : locate p = some names) :
    d.write p bytes =
      (((List.range names.length).map (names.take ·)).foldl ensure d).put names (.file bytes) := by
  unfold write
  rw [h]
  rfl

theorem write_of_locate_eq_none (d : Disk) (bytes : List UInt8) (h : locate p = none) :
    d.write p bytes = d := by
  unfold write
  rw [h]

theorem delete_of_locate (d : Disk) (h : locate p = some names) :
    d.delete p = { d with entries := d.entries.filter (fun e => !names.isPrefixOf e.1) } := by
  unfold delete
  rw [h]

/-- What stands where once a file is written. -/
theorem at?_write (d : Disk) (bytes : List UInt8) (h : locate p = some names) (hne : names ≠ [])
    (q : List String) : (d.write p bytes).at? q =
      if q = names then some (.file bytes)
      else (d.at? q).or (if q <+: names then some .directory else none) := by
  rw [write_of_locate d bytes h, at?_put _ hne, at?_foldl_ensure]
  by_cases e : q = names
  · simp [e]
  · simp only [mem_parents_iff, e, ne_eq, not_false_eq_true, and_true]

/-- What stands where once a file is removed. -/
theorem at?_delete (d : Disk) (h : locate p = some names) (hne : names ≠ []) (q : List String) :
    (d.delete p).at? q = if names <+: q then none else d.at? q := by
  rw [delete_of_locate d h]
  by_cases hq : q = []
  · have hno : ¬ names <+: q := by
      rw [hq, List.prefix_nil]
      exact hne
    rw [ite_cond_eq_false _ _ (eq_false hno), hq]
    rfl
  · rw [at?_of_ne_nil _ hq, at?_of_ne_nil _ hq]
    by_cases e : names <+: q
    · rw [find?_filter_of_drops d.entries (fun x => !names.isPrefixOf x) (by simp [e])]
      simp [e]
    · have hkeeps : (!names.isPrefixOf q) = true := by
        rw [Bool.not_eq_true', Bool.eq_false_iff, ne_eq, List.isPrefixOf_iff_prefix]
        exact e
      rw [find?_filter_of_keeps d.entries (fun x => !names.isPrefixOf x) hkeeps]
      simp [e]

/-! ### Directories -/

/-- The disk is that of a file system: there is one entry for everything, and everything is in a
directory. -/
structure WellFormed (d : Disk) : Prop where
  nodup : (d.entries.map Prod.fst).Nodup
  plain : ∀ names, (d.at? names).isSome = true → ".." ∉ names
  parent : ∀ names name, (d.at? (names ++ [name])).isSome = true → d.at? names = some .directory

/-- This can be told from the entries. -/
theorem WellFormed.of_entries (hnodup : (d.entries.map Prod.fst).Nodup)
    (h : ∀ e ∈ d.entries, ".." ∉ e.1 ∧ d.at? e.1.dropLast = some .directory) : d.WellFormed := by
  refine ⟨hnodup, fun names hnames => ?_, fun names name hname => ?_⟩
  · by_cases hnil : names = []
    · simp [hnil]
    · obtain ⟨content, he⟩ := (isSome_at?_iff hnil).mp hnames
      exact (h _ he).1
  · obtain ⟨content, he⟩ := (isSome_at?_iff (by simp)).mp hname
    have hparent := (h _ he).2
    rwa [List.dropLast_concat] at hparent

/-- The names in a directory, in the order of the entries. -/
def inside (d : Disk) (names : List String) : List String :=
  d.entries.filterMap (fun e =>
    if e.1.dropLast == names && e.1.length == names.length + 1 then e.1.getLast? else none)

theorem list_eq (h : locate p = some names) :
    d.list p = (d.inside names).mergeSort (fun a b => decide (a ≤ b)) := by
  unfold list
  rw [h]
  rfl

/-- The entries that are in a directory. -/
theorem inside_eq_some_iff {e : List String} {name : String} :
    (if e.dropLast == names && e.length == names.length + 1 then e.getLast? else none) = some name ↔
      e = names ++ [name] := by
  constructor
  · intro h
    rw [Option.ite_none_right_eq_some, Bool.and_eq_true, beq_iff_eq, beq_iff_eq] at h
    obtain ⟨⟨hnames, -⟩, hlast⟩ := h
    rw [← hnames]
    exact (List.dropLast_append_getLast? name hlast).symm
  · rintro rfl
    simp

/-- A directory lists what stands in it. -/
theorem mem_list (h : locate p = some names) {name : String} :
    name ∈ d.list p ↔ (d.at? (names ++ [name])).isSome = true := by
  rw [list_eq h, List.mem_mergeSort, inside, List.mem_filterMap, isSome_at?_iff (by simp)]
  constructor
  · rintro ⟨⟨found, content⟩, he, hname⟩
    obtain rfl : found = names ++ [name] := inside_eq_some_iff.mp hname
    exact ⟨content, he⟩
  · rintro ⟨content, he⟩
    exact ⟨_, he, inside_eq_some_iff.mpr rfl⟩

/-- It lists everything once. -/
theorem WellFormed.nodup_list (h : d.WellFormed) (hp : locate p = some names) :
    (d.list p).Nodup := by
  rw [list_eq hp, List.Perm.nodup_iff (List.mergeSort_perm ..)]
  have hkeys : d.inside names = (d.entries.map Prod.fst).filterMap (fun e : List String =>
      if e.dropLast == names && e.length == names.length + 1 then e.getLast? else none) := by
    rw [List.filterMap_map]
    rfl
  rw [hkeys]
  refine List.Nodup.filterMap (fun e e' name he he' => ?_) h.nodup
  rw [inside_eq_some_iff.mp he, inside_eq_some_iff.mp he']

/-- It lists everything in order. -/
theorem sorted_list (h : locate p = some names) : (d.list p).Pairwise (· ≤ ·) := by
  rw [list_eq h]
  have hsorted : ((d.inside names).mergeSort (fun a b => decide (a ≤ b))).Pairwise
      (fun a b => decide (a ≤ b) = true) :=
    List.pairwise_mergeSort (fun a b c => by simpa using fun h h' => le_trans h h')
      (fun a b => by simpa using le_total a b) _
  simpa using hsorted

/-! ### Edits -/

/-- A change of one file. -/
inductive Edit where
  | write (path : Path) (bytes : List UInt8)
  | delete (path : Path)

namespace Edit

/-- The file that is changed. -/
def path : Edit → Path
  | write path _ => path
  | delete path => path

/-- Makes the change. -/
def apply (d : Disk) : Edit → Disk
  | write path bytes => d.write path bytes
  | delete path => d.delete path

/-- A file can be written where there is no directory and where no file is in the way, and it can be
removed if it is there. -/
def Possible (d : Disk) : Edit → Prop
  | write path _ => ∀ names, locate path = some names → d.at? names ≠ some .directory ∧
      ∀ q bytes, q <+: names → q ≠ names → d.at? q ≠ some (.file bytes)
  | delete path => d.isFile path = true

end Edit

/-- Two disks differ at most by what stands at some names, and by directories that one of them does
not have. -/
structure DiffersAt (t : Option (List String)) (d d' : Disk) : Prop where
  closed : d'.closed = d.closed
  watchable : d'.watchable = d.watchable
  elsewhere : ∀ q, t ≠ some q →
    d'.at? q = d.at? q ∨ (d.at? q = none ∧ d'.at? q = some .directory)

theorem isFile_iff : d.isFile p = true ↔
    ∃ names bytes, locate p = some names ∧ d.at? names = some (.file bytes) := by
  unfold isFile get?
  cases hp : locate p with
  | none => simp
  | some names =>
    rw [Option.bind_some]
    constructor
    · intro h
      split at h
      · rename_i bytes hbytes
        exact ⟨names, bytes, rfl, hbytes⟩
      · exact absurd h Bool.false_ne_true
    · rintro ⟨names', bytes, hnames, hbytes⟩
      rw [Option.some.inj hnames, hbytes]

/-- What leads to something is a directory. -/
theorem WellFormed.at?_above (h : d.WellFormed) {q r : List String}
    (hq : (d.at? q).isSome = true) (hleads : r <+: q) (hne : r ≠ q) :
    d.at? r = some .directory := by
  induction q using List.reverseRecOn with
  | nil => exact absurd (List.prefix_nil.mp hleads) hne
  | append_singleton names name ih =>
    have hparent := h.parent names name hq
    rcases List.prefix_concat_iff.mp hleads with e | hleads
    · exact absurd e hne
    · by_cases e : r = names
      · rw [e, hparent]
      · exact ih (by rw [hparent]; rfl) hleads e

/-! Making directories and putting a file there changes nothing else about the disk. -/

theorem fields_foldl_ensure (d : Disk) (dirs : List (List String)) :
    (dirs.foldl ensure d).closed = d.closed ∧ (dirs.foldl ensure d).watchable = d.watchable := by
  induction dirs generalizing d with
  | nil => exact ⟨rfl, rfl⟩
  | cons dir rest ih =>
    obtain ⟨hclosed, hwatchable⟩ := ih (d.ensure dir)
    rw [List.foldl_cons, hclosed, hwatchable, ensure]
    split <;> exact ⟨rfl, rfl⟩

theorem nodup_put (h : (d.entries.map Prod.fst).Nodup) (names : List String) (content : Content) :
    ((d.put names content).entries.map Prod.fst).Nodup := by
  show ((d.entries.filter (fun e => e.1 != names) ++ [(names, content)]).map Prod.fst).Nodup
  rw [List.map_append, List.map_singleton, ← List.concat_eq_append]
  refine List.Nodup.concat ?_ (h.sublist (List.filter_sublist.map _))
  intro hmem
  obtain ⟨e, he, hname⟩ := List.mem_map.mp hmem
  have hkept := (List.mem_filter.mp he).2
  rw [hname] at hkept
  simp at hkept

theorem nodup_foldl_ensure (h : (d.entries.map Prod.fst).Nodup) (dirs : List (List String)) :
    ((dirs.foldl ensure d).entries.map Prod.fst).Nodup := by
  induction dirs generalizing d with
  | nil => exact h
  | cons dir rest ih =>
    rw [List.foldl_cons]
    refine ih ?_
    unfold ensure
    split
    · exact h
    · exact nodup_put h dir .directory

section Write

variable {bytes : List UInt8} (h : (Edit.write p bytes).Possible d)

include h

/-- The names of a file that can be written. -/
theorem Edit.Possible.ne_nil (hp : locate p = some names) : names ≠ [] := by
  rintro rfl
  exact (h [] hp).1 rfl

/-- Once a file is written, all that leads to it are directories. -/
theorem Edit.Possible.at?_above (hp : locate p = some names) (hleads : q <+: names)
    (hne : q ≠ names) : (d.write p bytes).at? q = some .directory := by
  rw [at?_write d bytes hp (h.ne_nil hp), ite_cond_eq_false _ _ (eq_false hne)]
  cases hq : d.at? q with
  | none => simp [hleads]
  | some content =>
    cases content with
    | file other => exact absurd hq ((h names hp).2 q other hleads hne)
    | directory => rfl

theorem Edit.Possible.differsAt_write : DiffersAt (locate p) d (d.write p bytes) := by
  cases hp : locate p with
  | none =>
    rw [write_of_locate_eq_none d bytes hp]
    exact ⟨rfl, rfl, fun _ _ => .inl rfl⟩
  | some names =>
    obtain ⟨hclosed, hwatchable⟩ :=
      d.fields_foldl_ensure ((List.range names.length).map (names.take ·))
    refine ⟨?_, ?_, fun q hne => ?_⟩
    · rw [write_of_locate d bytes hp]
      exact hclosed
    · rw [write_of_locate d bytes hp]
      exact hwatchable
    · have hne' : q ≠ names := fun e => hne (congrArg some e.symm)
      rw [at?_write d bytes hp (h.ne_nil hp), ite_cond_eq_false _ _ (eq_false hne')]
      cases hq : d.at? q with
      | some content => exact .inl rfl
      | none =>
        by_cases hleads : q <+: names
        · exact .inr ⟨rfl, by simp [hleads]⟩
        · exact .inl (by simp [hleads])

theorem Edit.Possible.wellFormed_write (hd : d.WellFormed) : (d.write p bytes).WellFormed := by
  cases hp : locate p with
  | none => rwa [write_of_locate_eq_none d bytes hp]
  | some names =>
    have hat := at?_write d bytes hp (h.ne_nil hp)
    -- what is there was there before, or leads to the file
    have hcases : ∀ q, ((d.write p bytes).at? q).isSome = true →
        (d.at? q).isSome = true ∨ q <+: names := by
      intro q hq
      by_cases hleads : q <+: names
      · exact .inr hleads
      · have hne : q ≠ names := fun e => hleads (e ▸ List.prefix_rfl)
        rw [hat, ite_cond_eq_false _ _ (eq_false hne), ite_cond_eq_false _ _ (eq_false hleads),
          Option.or_none] at hq
        exact .inl hq
    refine ⟨?_, fun q hq => ?_, fun r name hr => ?_⟩
    · rw [write_of_locate d bytes hp]
      exact nodup_put (nodup_foldl_ensure hd.nodup _) names _
    · rcases hcases q hq with hold | hleads
      · exact hd.plain q hold
      · exact fun hmem => not_mem_locate hp (hleads.subset hmem)
    · rcases hcases _ hr with hold | hleads
      · have hparent := hd.parent r name hold
        have hne : r ≠ names := fun e => (h names hp).1 (e ▸ hparent)
        rw [hat, ite_cond_eq_false _ _ (eq_false hne), hparent]
        rfl
      · have hlength := hleads.length_le
        rw [List.length_append, List.length_singleton] at hlength
        refine h.at?_above hp ((List.prefix_append r [name]).trans hleads) ?_
        intro e
        rw [e] at hlength
        omega

end Write

section Delete

variable (h : (Edit.delete p).Possible d) (hd : d.WellFormed)

include h hd

/-- Where a file was removed there is nothing, and all else is as before. -/
theorem Edit.Possible.exists_at?_delete : ∃ names, locate p = some names ∧
    ∀ q, (d.delete p).at? q = if q = names then none else d.at? q := by
  obtain ⟨names, bytes, hp, hfile⟩ := isFile_iff.mp h
  have hne : names ≠ [] := by
    rintro rfl
    simp at hfile
  refine ⟨names, hp, fun q => ?_⟩
  rw [at?_delete d hp hne]
  by_cases e : q = names
  · simp [e]
  · rw [ite_cond_eq_false _ _ (eq_false e)]
    split
    · rename_i hleads
      -- there was nothing below the file
      cases hq : d.at? q with
      | none => rfl
      | some content =>
        have hdir := hd.at?_above (by rw [hq]; rfl) hleads (Ne.symm e)
        exact absurd (hfile.symm.trans hdir) (by simp)
    · rfl

theorem Edit.Possible.differsAt_delete : DiffersAt (locate p) d (d.delete p) := by
  obtain ⟨names, hp, hat⟩ := h.exists_at?_delete hd
  rw [hp]
  refine ⟨by rw [delete_of_locate d hp], by rw [delete_of_locate d hp], fun q hne => .inl ?_⟩
  rw [hat, ite_cond_eq_false _ _ (eq_false fun e => hne (congrArg some e.symm))]

theorem Edit.Possible.wellFormed_delete : (d.delete p).WellFormed := by
  obtain ⟨names, hp, hat⟩ := h.exists_at?_delete hd
  obtain ⟨names', bytes, hp', hfile⟩ := isFile_iff.mp h
  obtain rfl : names = names' := Option.some.inj (hp.symm.trans hp')
  have hold : ∀ q, ((d.delete p).at? q).isSome = true → (d.at? q).isSome = true := by
    intro q hq
    rw [hat] at hq
    split at hq
    · exact absurd hq Bool.false_ne_true
    · exact hq
  refine ⟨?_, fun q hq => hd.plain q (hold q hq), fun r name hr => ?_⟩
  · rw [delete_of_locate d hp]
    exact hd.nodup.sublist (List.filter_sublist.map _)
  · have hparent := hd.parent r name (hold _ hr)
    have hne : r ≠ names := by
      rintro rfl
      exact absurd (hfile.symm.trans hparent) (by simp)
    rw [hat, ite_cond_eq_false _ _ (eq_false hne), hparent]

end Delete

/-- An edit that is possible changes one file, and brings at most directories besides. -/
theorem Edit.Possible.differsAt {e : Edit} (h : e.Possible d) (hd : d.WellFormed) :
    DiffersAt (locate e.path) d (e.apply d) := by
  cases e with
  | write path bytes => exact h.differsAt_write
  | delete path => exact h.differsAt_delete hd

/-- It leaves the disk well-formed. -/
theorem Edit.Possible.wellFormed {e : Edit} (h : e.Possible d) (hd : d.WellFormed) :
    (e.apply d).WellFormed := by
  cases e with
  | write path bytes => exact h.wellFormed_write hd
  | delete path => exact h.wellFormed_delete hd

/-! ### What does not change -/

section Differs

variable {t : Option (List String)} {d' : Disk} (h : DiffersAt t d d')

include h

/-- Other files are the same files. -/
theorem DiffersAt.file_iff (hne : t ≠ some q) {bytes : List UInt8} :
    d'.at? q = some (.file bytes) ↔ d.at? q = some (.file bytes) := by
  rcases h.elsewhere q hne with e | ⟨hold, hnew⟩
  · rw [e]
  · simp [hold, hnew]

theorem DiffersAt.isFile_eq (hne : ∀ names, locate p = some names → t ≠ some names) :
    d'.isFile p = d.isFile p := by
  rw [Bool.eq_iff_iff, isFile_iff, isFile_iff]
  refine exists_congr fun names => exists_congr fun bytes => and_congr_right fun hp => ?_
  exact h.file_iff (hne names hp)

/-- They have the same text. -/
theorem DiffersAt.readText_eq (hne : ∀ names, locate p = some names → t ≠ some names)
    (hfile : d.isFile p = true) : d'.readText p = d.readText p := by
  obtain ⟨names, bytes, hp, hold⟩ := isFile_iff.mp hfile
  have hnew := (h.file_iff (hne names hp)).mpr hold
  unfold readText read
  rw [hp, h.closed]
  dsimp only
  rw [hold, hnew]

end Differs

/-- Two disks with the same things of interest in a directory list them alike. -/
theorem WellFormed.filterMap_list_eq {d' : Disk} {α : Type} (h : d.WellFormed) (h' : d'.WellFormed)
    (hp : locate p = some names) {f f' : String → Option α}
    (hsame : ∀ name, name ≠ ".." → f' name = f name)
    (hthere : ∀ name, name ≠ ".." → (f name).isSome = true →
      (d.at? (names ++ [name])).isSome = true ∧ (d'.at? (names ++ [name])).isSome = true) :
    (d'.list p).filterMap f' = (d.list p).filterMap f := by
  have hplain : ∀ {disk : Disk}, disk.WellFormed → ∀ name ∈ disk.list p, name ≠ ".." := by
    rintro disk hdisk _ hmem rfl
    exact hdisk.plain _ ((mem_list hp).mp hmem) (by simp)
  have hfilter : ∀ xs : List String,
      xs.filterMap f = (xs.filter (fun name => (f name).isSome)).filterMap f := by
    intro xs
    rw [List.filterMap_filter]
    refine List.filterMap_congr fun name _ => ?_
    cases f name <;> simp
  rw [List.filterMap_congr fun name hmem => hsame name (hplain h' name hmem), hfilter (d'.list p),
    hfilter (d.list p)]
  -- what is of interest is listed by both, once and in the same order
  congr 1
  refine List.Perm.eq_of_pairwise' ((sorted_list hp).filter _) ((sorted_list hp).filter _) ?_
  refine (List.perm_ext_iff_of_nodup ((h'.nodup_list hp).filter _)
    ((h.nodup_list hp).filter _)).mpr fun name => ?_
  rw [List.mem_filter, List.mem_filter]
  refine and_congr_left fun hsome => ⟨fun hmem => ?_, fun hmem => ?_⟩
  · exact (mem_list hp).mpr (hthere name (hplain h' name hmem) hsome).1
  · exact (mem_list hp).mpr (hthere name (hplain h name hmem) hsome).2

end Disk

end ScriptScope
