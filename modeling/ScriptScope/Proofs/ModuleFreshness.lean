import ScriptScope.Proofs.DiskLaws
import ScriptScope.Proofs.ModuleMemory

/-!
# Stale answers of a module index

An index that watches forgets everything when a module file changes in a watched directory, and it
watches the directories of the modules that it found.  A search reads more than that: it looks for
the module below all roots up to the one that has it, for a package before a file, and for packages
inside a package.  `Consults` says exactly where a search looks; a change elsewhere does not alter
its result (`load_eq_of_differsAt`).  So the answers of an index are those of a new one, unless a
file that the search consults was changed where nobody watches, and the module was remembered ever
since (`lookup_fresh_or_missed`).
-/

namespace ScriptScope.Module

open Disk

variable {d d' : Disk} {modulePath : String} {root : Path} {roots : List Path}

/-! ### Where a search looks -/

/-- The path of a module below a root, without a suffix. -/
def baseBelow (root : Path) (modulePath : String) : Path :=
  { root with parts := root.parts ++ Text.split '.' modulePath }

/-- The file that makes the module a package. -/
def packageFile (root : Path) (modulePath : String) : Path :=
  (baseBelow root modulePath).child initFile

/-- The file of the module, if it is not a package. -/
def moduleFile (root : Path) (modulePath : String) : Path :=
  (baseBelow root modulePath).parent.child ((baseBelow root modulePath).name ++ fileSuffix)

theorem loadBelow_eq (d : Disk) (modulePath : String) (root : Path) :
    loadBelow d modulePath root =
      if d.isFile (packageFile root modulePath) then
        (namesOfFile d (packageFile root modulePath)).map (fun names =>
          some ⟨modulePath, packageFile root modulePath,
            firstBy id (names ++ submodules d (baseBelow root modulePath))⟩)
      else if d.isFile (moduleFile root modulePath) then
        (namesOfFile d (moduleFile root modulePath)).map (fun names =>
          some ⟨modulePath, moduleFile root modulePath, names⟩)
      else .ok none := by
  have hbind : ∀ {α β : Type} (x : Except Error α) (f : α → β),
      (do let a ← x; return f a) = x.map f := by
    intro α β x f
    cases x <;> rfl
  rw [← hbind, ← hbind]
  rfl

/-- A search below a root finds nothing only if neither file is there. -/
theorem loadBelow_ne_none (h : d.isFile (packageFile root modulePath) = true ∨
    d.isFile (moduleFile root modulePath) = true) : loadBelow d modulePath root ≠ .ok none := by
  have hmap : ∀ (x : Except Error (List String)) (f : List String → Loaded),
      x.map (fun names => some (f names)) ≠ .ok none := by
    intro x f
    cases x <;> simp [Except.map]
  rw [loadBelow_eq]
  split
  · exact hmap _ _
  · rename_i hpackage
    rw [ite_cond_eq_true _ _ (eq_true (h.resolve_left hpackage))]
    exact hmap _ _

/-- Where the search below one root looks: for the file of the package; if it is there, at what is
in its directory and for the packages inside; and otherwise for the file of the module. -/
def ConsultsBelow (d : Disk) (modulePath : String) (root : Path) (t : List String) : Prop :=
  locate (packageFile root modulePath) = some t ∨
    if d.isFile (packageFile root modulePath) then
      ∃ dir name, locate (baseBelow root modulePath) = some dir ∧
        (t = dir ++ [name] ∨ t = dir ++ [name, initFile])
    else locate (moduleFile root modulePath) = some t

/-- Where the search looks, which goes on until it finds the module. -/
def Consults (d : Disk) (modulePath : String) : List Path → List String → Prop
  | [], _ => False
  | root :: rest, t =>
    ConsultsBelow d modulePath root t ∨
      loadBelow d modulePath root = .ok none ∧ Consults d modulePath rest t

/-! ### Changes elsewhere -/

/-- What a directory has under a name, if it is a submodule. -/
def submodule? (d : Disk) (directory : Path) (name : String) : Option String :=
  let path := directory.child name
  if d.isFile path then
    if path.suffix = fileSuffix ∧ path.stem ≠ "__init__" then some path.stem else none
  else if d.isDirectory path && d.isFile (path.child initFile) then some name
  else none

/-- A submodule is there. -/
theorem isSome_at?_of_submodule? {directory : Path} {dir : List String} {name : String}
    (hdir : locate directory = some dir) (hname : name ≠ "..")
    (h : (submodule? d directory name).isSome = true) : (d.at? (dir ++ [name])).isSome = true := by
  have hpath : d.get? (directory.child name) = d.at? (dir ++ [name]) := by
    rw [get?, locate_child directory hname, hdir]
    rfl
  rw [← hpath]
  cases hcontent : d.get? (directory.child name) with
  | some content => rfl
  | none => simp [submodule?, isFile, isDirectory, hcontent] at h

section Differs

variable {t : Option (List String)} (h : DiffersAt t d d') (hd : d.WellFormed)
  (hd' : d'.WellFormed)

include h

theorem namesOfFile_eq_of_differsAt {path : Path}
    (hne : ∀ names, locate path = some names → t ≠ some names) (hfile : d.isFile path = true) :
    namesOfFile d' path = namesOfFile d path := by
  unfold namesOfFile
  rw [h.readText_eq hne hfile]

include hd

theorem submodule?_eq_of_differsAt {directory : Path} {dir : List String} {name : String}
    (hdir : locate directory = some dir) (hname : name ≠ "..") (hchild : t ≠ some (dir ++ [name]))
    (hinner : t ≠ some (dir ++ [name, initFile])) :
    submodule? d' directory name = submodule? d directory name := by
  have hpath : locate (directory.child name) = some (dir ++ [name]) := by
    rw [locate_child directory hname, hdir]
    rfl
  have hinit : locate ((directory.child name).child initFile) = some (dir ++ [name, initFile]) := by
    rw [locate_child _ (by decide), hpath]
    simp
  have hfile : d'.isFile (directory.child name) = d.isFile (directory.child name) := by
    refine h.isFile_eq fun names hnames => ?_
    rw [← hnames, hpath]
    exact hchild
  have hpackage : d'.isFile ((directory.child name).child initFile) =
      d.isFile ((directory.child name).child initFile) := by
    refine h.isFile_eq fun names hnames => ?_
    rw [← hnames, hinit]
    exact hinner
  unfold submodule?
  dsimp only
  rw [hfile, hpackage]
  rcases h.elsewhere (dir ++ [name]) hchild with hsame | ⟨hnone, hnew⟩
  · have hisDir : d'.isDirectory (directory.child name) = d.isDirectory (directory.child name) := by
      unfold isDirectory get?
      rw [hpath, Option.bind_some, Option.bind_some, hsame]
    rw [hisDir]
  -- a directory that was not there before had no files in it
  · have hno : d.isFile ((directory.child name).child initFile) = false := by
      rw [Bool.eq_false_iff]
      intro hthere
      obtain ⟨names, bytes, hnames, hbytes⟩ := isFile_iff.mp hthere
      rw [hinit, Option.some.injEq] at hnames
      have hparent := hd.parent (dir ++ [name]) initFile (by
        rw [List.append_assoc, List.singleton_append, hnames, hbytes]
        rfl)
      exact absurd (hnone.symm.trans hparent) (by simp)
    rw [hno, Bool.and_false, Bool.and_false]

include hd'

theorem submodules_eq_of_differsAt {directory : Path} {dir : List String}
    (hdir : locate directory = some dir) (hchild : ∀ name, t ≠ some (dir ++ [name]))
    (hinner : ∀ name, t ≠ some (dir ++ [name, initFile])) :
    submodules d' directory = submodules d directory := by
  show (d'.list directory).filterMap (submodule? d' directory) =
    (d.list directory).filterMap (submodule? d directory)
  have hsame : ∀ name, name ≠ ".." →
      submodule? d' directory name = submodule? d directory name := fun name hname =>
    submodule?_eq_of_differsAt h hd hdir hname (hchild name) (hinner name)
  refine hd.filterMap_list_eq hd' hdir hsame fun name hname hsome => ⟨?_, ?_⟩
  · exact isSome_at?_of_submodule? hdir hname hsome
  · exact isSome_at?_of_submodule? hdir hname (by rwa [hsame name hname])

theorem loadBelow_eq_of_differsAt
    (hno : ∀ q, t = some q → ¬ ConsultsBelow d modulePath root q) :
    loadBelow d' modulePath root = loadBelow d modulePath root := by
  have hpackage : ∀ names, locate (packageFile root modulePath) = some names → t ≠ some names :=
    fun names hnames ht => hno names ht (.inl hnames)
  rw [loadBelow_eq, loadBelow_eq, h.isFile_eq hpackage]
  unfold ConsultsBelow at hno
  split
  · rename_i hfile
    simp only [hfile, ↓reduceIte] at hno
    -- the directory of a package that is there can be located
    obtain ⟨dir, hdir⟩ : ∃ dir, locate (baseBelow root modulePath) = some dir := by
      obtain ⟨names, bytes, hnames, -⟩ := isFile_iff.mp hfile
      rw [packageFile, locate_child _ (by decide)] at hnames
      obtain ⟨dir, hdir, -⟩ := Option.map_eq_some_iff.mp hnames
      exact ⟨dir, hdir⟩
    rw [namesOfFile_eq_of_differsAt h hpackage hfile, submodules_eq_of_differsAt h hd hd' hdir]
    · exact fun name ht => hno _ ht (.inr ⟨dir, name, hdir, .inl rfl⟩)
    · exact fun name ht => hno _ ht (.inr ⟨dir, name, hdir, .inr rfl⟩)
  · rename_i hfile
    simp only [hfile, Bool.false_eq_true, ↓reduceIte] at hno
    have hmodule : ∀ names, locate (moduleFile root modulePath) = some names → t ≠ some names :=
      fun names hnames ht => hno names ht (.inr hnames)
    rw [h.isFile_eq hmodule]
    split
    · rename_i hthere
      rw [namesOfFile_eq_of_differsAt h hmodule hthere]
    · rfl

/-- A search finds the same if nothing changes where it looks. -/
theorem load_eq_of_differsAt (hno : ∀ q, t = some q → ¬ Consults d modulePath roots q) :
    load d' modulePath roots = load d modulePath roots := by
  induction roots with
  | nil => rfl
  | cons root rest ih =>
    have hbelow : loadBelow d' modulePath root = loadBelow d modulePath root :=
      loadBelow_eq_of_differsAt h hd hd' fun q ht hq => hno q ht (.inl hq)
    unfold load
    rw [hbelow]
    split
    · rename_i hnone
      exact ih fun q ht hq => hno q ht (.inr ⟨hnone, hq⟩)
    · rfl

end Differs

/-! ### An index that watches -/

namespace Index

/-- Whether the directory of a file is watched. -/
def watches (ix : Index) (path : Path) : Bool :=
  decide (resolved path.parent ∈ ix.watchedDirectories)

/-- The index watches the directories of all modules that it remembers as found. -/
def WatchesFound (ix : Index) : Prop :=
  ix.watched.isSome = true ∧
    ∀ name m, (name, some m) ∈ ix.memory → ix.watches m.path = true

/-- Whoever watches the directories of all modules but the one that was found last watches them all
after watching its directory. -/
theorem watchesFound_watchFound {ix : Index} (hwatched : ix.watched.isSome = true)
    (hwatchable : d.watchable = true) {found : Option Loaded}
    (h : ∀ name m, (name, some m) ∈ ix.memory → ix.watches m.path = true ∨ found = some m) :
    (ix.watchFound d found).WatchesFound := by
  cases found with
  | none => exact ⟨hwatched, fun name m hmem => (h name m hmem).resolve_right (by simp)⟩
  | some last =>
    obtain ⟨known, hknown⟩ := Option.isSome_iff_exists.mp hwatched
    have hdirectories : ix.watchedDirectories = known := by
      rw [watchedDirectories, hknown]
      rfl
    unfold watchFound watch
    dsimp only
    rw [hknown, hwatchable]
    dsimp only
    split
    · rename_i hthere
      have hlast : resolved last.path.parent ∈ known := by simpa using hthere
      refine ⟨hwatched, fun name m hmem => ?_⟩
      rcases h name m hmem with hold | hnew
      · exact hold
      · rw [← Option.some.inj hnew, watches, hdirectories]
        exact decide_eq_true hlast
    · refine ⟨rfl, fun name m hmem => decide_eq_true ?_⟩
      show resolved m.path.parent ∈ known ++ [resolved last.path.parent]
      rcases h name m hmem with hold | hnew
      · rw [watches, hdirectories] at hold
        exact List.mem_append_left _ (of_decide_eq_true hold)
      · rw [Option.some.inj hnew]
        exact List.mem_append_right _ (List.mem_singleton_self _)

theorem WatchesFound.lookup {ix : Index} (h : ix.WatchesFound) (hwatchable : d.watchable = true)
    (modulePath : String) : (ix.lookup d modulePath).2.WatchesFound := by
  unfold Index.lookup
  split
  · split
    · exact ⟨h.1, fun name m hmem => h.2 name m (Memory.mem_of_mem_touch hmem)⟩
    · split
      · exact h
      · rename_i found hload
        have hwatched : Option.isSome
            { ix with memory := ix.memory.insert ix.limit modulePath found }.watched = true := h.1
        refine watchesFound_watchFound hwatched hwatchable fun name m hmem => ?_
        rcases Memory.mem_of_mem_insert hmem with hold | hnew
        · exact .inl (h.2 name m hold)
        · exact .inr (Prod.mk.inj hnew).2.symm
  · exact h

/-- A lookup keeps the search roots, and remembers nothing new but what it finds. -/
theorem roots_lookup (ix : Index) (d : Disk) (modulePath : String) :
    (ix.lookup d modulePath).2.roots = ix.roots ∧
      ∀ entry ∈ (ix.lookup d modulePath).2.memory, entry ∈ ix.memory ∨
        entry.1 = modulePath ∧ load d modulePath ix.roots = .ok entry.2 := by
  have hlooks := ix.looks_lookup d modulePath
  generalize ix.lookup d modulePath = outcome at hlooks
  cases hlooks with
  | noPath path => exact ⟨rfl, fun entry hmem => .inl hmem⟩
  | remembered path known => exact ⟨rfl, fun entry hmem => .inl (Memory.mem_of_mem_touch hmem)⟩
  | failed path unknown loaded => exact ⟨rfl, fun entry hmem => .inl hmem⟩
  | searched watched path unknown loaded =>
    refine ⟨rfl, fun entry hmem => ?_⟩
    rcases Memory.mem_of_mem_insert hmem with hold | rfl
    · exact .inl hold
    · exact .inr ⟨rfl, loaded⟩

end Index

/-- The change that an edit is noticed as. -/
def changeOf (d : Disk) : Edit → Change
  | .write path _ => ⟨if d.isFile path then .modified else .created, path, false⟩
  | .delete path => ⟨.deleted, path, false⟩

/-- An index that is told of an edit of a module file forgets everything. -/
theorem notice_changeOf {e : Edit} (h : Text.lower e.path.suffix = fileSuffix) (ix : Index)
    (d : Disk) : ix.notice (changeOf d e) = ix.clear := by
  have hconcerns : (changeOf d e).concernsModule = true := by
    cases e with
    | write path bytes =>
      have hsuffix : Text.lower path.suffix = fileSuffix := h
      have hkind : (if d.isFile path then ChangeKind.modified else .created) ≠ .other := by
        split <;> decide
      simpa [changeOf, Change.concernsModule, hkind] using hsuffix
    | delete path =>
      have hsuffix : Text.lower path.suffix = fileSuffix := h
      simpa [changeOf, Change.concernsModule] using hsuffix
  rw [Index.notice, hconcerns]
  rfl

/-- What happens to an index at work: it is asked for a module, or somebody edits a file. -/
inductive Event where
  | lookup (modulePath : String)
  | edit (e : Edit)

namespace Session

/-- One event.  Only edits in directories that are watched at the time are noticed. -/
def advance (s : Session) : Event → Session
  | .lookup modulePath => (s.step (.lookup modulePath)).2
  | .edit e =>
    ⟨if s.index.watches e.path then s.index.notice (changeOf s.disk e) else s.index, e.apply s.disk⟩

/-- Events in turn. -/
def play (s : Session) (events : List Event) : Session :=
  events.foldl advance s

/-- A session does not notice an edit where the search for a module looks that it remembers. -/
structure Overlooks (s : Session) (modulePath : String) (e : Edit) : Prop where
  remembered : modulePath ∈ s.index.memory.names
  unwatched : s.index.watches e.path = false
  consulted : ∃ t, locate e.path = some t ∧ Consults s.disk modulePath s.index.roots t

/-- Among the events there is an edit that is overlooked, and the module is remembered ever since.
-/
def Misses (s : Session) (events : List Event) (modulePath : String) : Prop :=
  ∃ before e after, events = before ++ .edit e :: after ∧ (s.play before).Overlooks modulePath e ∧
    ∀ mid, mid <+: after → modulePath ∈ (s.play (before ++ .edit e :: mid)).index.memory.names

theorem play_concat (s : Session) (events : List Event) (event : Event) :
    s.play (events ++ [event]) = (s.play events).advance event := by
  rw [play, List.foldl_append]
  rfl

/-- An edit of a module file makes the index forget everything if the directory is watched. -/
theorem play_edit (s : Session) (events : List Event) {e : Edit}
    (hmodule : Text.lower e.path.suffix = fileSuffix) :
    s.play (events ++ [.edit e]) =
      ⟨if (s.play events).index.watches e.path then (s.play events).index.clear
        else (s.play events).index, e.apply (s.play events).disk⟩ := by
  rw [play_concat, advance, notice_changeOf hmodule]

variable {s : Session} {events : List Event} {modulePath : String}

/-- What was missed stays missed as long as the module is remembered. -/
theorem Misses.concat (h : s.Misses events modulePath) {event : Event}
    (hnames : modulePath ∈ (s.play (events ++ [event])).index.memory.names) :
    s.Misses (events ++ [event]) modulePath := by
  obtain ⟨before, e, after, rfl, hoverlooks, hkept⟩ := h
  refine ⟨before, e, after ++ [event], by simp, hoverlooks, fun mid hmid => ?_⟩
  rcases List.prefix_concat_iff.mp hmid with rfl | hmid
  · simpa using hnames
  · exact hkept mid hmid

/-- An edit that is overlooked is missed. -/
theorem Overlooks.misses {e : Edit} (h : (s.play events).Overlooks modulePath e) :
    s.Misses (events ++ [.edit e]) modulePath := by
  refine ⟨events, e, [], rfl, h, fun mid hmid => ?_⟩
  rw [List.prefix_nil.mp hmid, play_concat]
  show modulePath ∈ (if (s.play events).index.watches e.path then _ else _ : Index).memory.names
  rw [h.unwatched]
  exact h.remembered

/-- What holds of a session that plays events. -/
structure Keeps (s : Session) (events : List Event) : Prop where
  disk : (s.play events).disk.WellFormed
  watchable : (s.play events).disk.watchable = s.disk.watchable
  roots : (s.play events).index.roots = s.index.roots
  watches : s.disk.watchable = true → (s.play events).index.WatchesFound
  /-- What is remembered is found on the disk, unless an edit was missed. -/
  known : ∀ name found, (name, found) ∈ (s.play events).index.memory →
    load (s.play events).disk name s.index.roots = .ok found ∨ s.Misses events name

/-- Looking a module up keeps it. -/
theorem Keeps.lookup (h : s.Keeps events) (name : String) :
    s.Keeps (events ++ [.lookup name]) := by
  have hplay : s.play (events ++ [.lookup name]) =
      ⟨((s.play events).index.lookup (s.play events).disk name).2, (s.play events).disk⟩ :=
    play_concat s events (.lookup name)
  obtain ⟨hroots, hmemory⟩ := (s.play events).index.roots_lookup (s.play events).disk name
  refine ⟨?_, ?_, ?_, ?_, ?_⟩
  · rw [hplay]
    exact h.disk
  · rw [hplay]
    exact h.watchable
  · rw [hplay]
    exact hroots.trans h.roots
  · intro hwatchable
    rw [hplay]
    exact (h.watches hwatchable).lookup (h.watchable.trans hwatchable) name
  · intro other found hmem
    have hnames : other ∈ (s.play (events ++ [.lookup name])).index.memory.names :=
      List.mem_map_of_mem hmem
    rw [hplay] at hmem ⊢
    rcases hmemory _ hmem with hold | ⟨rfl, hload⟩
    · rcases h.known other found hold with hload | hmisses
      · exact .inl hload
      · exact .inr (hmisses.concat hnames)
    · rw [h.roots] at hload
      exact .inl hload

/-- An edit of a module file keeps it. -/
theorem Keeps.edit (h : s.Keeps events) {e : Edit} (hmodule : Text.lower e.path.suffix = fileSuffix)
    (hpossible : e.Possible (s.play events).disk) : s.Keeps (events ++ [.edit e]) := by
  have hplay := play_edit s events hmodule
  have hdiffers := hpossible.differsAt h.disk
  have hdisk := hpossible.wellFormed h.disk
  refine ⟨?_, ?_, ?_, ?_, ?_⟩
  · rw [hplay]
    exact hdisk
  · rw [hplay]
    exact hdiffers.watchable.trans h.watchable
  · rw [hplay]
    dsimp only
    split
    · exact h.roots
    · exact h.roots
  · intro hwatchable
    rw [hplay]
    dsimp only
    split
    · exact ⟨(h.watches hwatchable).1, by simp [Index.clear]⟩
    · exact h.watches hwatchable
  · intro name found hmem
    have hnames : name ∈ (s.play (events ++ [.edit e])).index.memory.names :=
      List.mem_map_of_mem hmem
    rw [hplay] at hmem ⊢
    dsimp only at hmem ⊢
    split at hmem
    · simp [Index.clear] at hmem
    · rename_i hunwatched
      rw [Bool.not_eq_true] at hunwatched
      rcases h.known name found hmem with hload | hmisses
      · by_cases hconsults : ∃ t, locate e.path = some t ∧
            Consults (s.play events).disk name (s.play events).index.roots t
        · exact .inr (Overlooks.misses ⟨List.mem_map_of_mem hmem, hunwatched, hconsults⟩)
        · left
          rw [← hload]
          refine load_eq_of_differsAt hdiffers h.disk hdisk fun t ht hlooks => ?_
          rw [← h.roots] at hlooks
          exact hconsults ⟨t, ht, hlooks⟩
      · exact .inr (hmisses.concat hnames)

/-- Any number of events keep it. -/
theorem keeps_play {events : List Event} (hdisk : s.disk.WellFormed)
    (hstart : s.index.memory = []) (hwatched : s.index.watched.isSome = true)
    (hedits : ∀ before e after, events = before ++ .edit e :: after →
      Text.lower e.path.suffix = fileSuffix ∧ e.Possible (s.play before).disk) :
    s.Keeps events := by
  induction events using List.reverseRecOn with
  | nil =>
    have hnone : ∀ entry, entry ∉ (s.play []).index.memory := by simp [play, hstart]
    exact ⟨hdisk, rfl, rfl, fun _ => ⟨hwatched, fun _ _ hmem => absurd hmem (hnone _)⟩,
      fun _ _ hmem => absurd hmem (hnone _)⟩
  | append_singleton events event ih =>
    have hbefore : s.Keeps events := by
      refine ih fun before e after hsplit => hedits before e (after ++ [event]) ?_
      rw [hsplit]
      simp
    cases event with
    | lookup name => exact hbefore.lookup name
    | edit e =>
      obtain ⟨hmodule, hpossible⟩ := hedits events e [] rfl
      exact hbefore.edit hmodule hpossible

end Session

/-- A session with an empty library. -/
def library : Session :=
  ⟨.ofRoots [⟨false, ["lib"]⟩] true 256, { entries := [(["lib"], .directory)] }⟩

/-- A module is looked up in vain, and then written. -/
def lateModule : List Event :=
  [.lookup "late", .edit (.write ⟨false, ["lib", "late.py"]⟩ [])]

theorem wellFormed_library : library.disk.WellFormed :=
  .of_entries (by decide) (by decide)

/-- The module can be written. -/
theorem possible_lateModule (before : List Event) (e : Edit) (after : List Event)
    (h : lateModule = before ++ .edit e :: after) :
    Text.lower e.path.suffix = fileSuffix ∧ e.Possible (library.play before).disk := by
  match before with
  | [] => simp [lateModule] at h
  | _ :: _ :: _ => simp [lateModule] at h
  | [event] =>
    simp only [lateModule, List.cons_append, List.nil_append, List.cons.injEq, Event.edit.injEq]
      at h
    obtain ⟨rfl, rfl, -⟩ := h
    refine ⟨by decide +kernel, fun names hnames => ?_⟩
    obtain rfl : ["lib", "late.py"] = names := by
      rw [← Option.some.injEq, ← hnames]
      decide +kernel
    refine ⟨by decide +kernel, fun q bytes hleads hne hfile => ?_⟩
    have hdirectory : ∀ dir ∈ (List.range 2).map (["lib", "late.py"].take ·),
        (library.play [.lookup "late"]).disk.at? dir = some .directory := by decide +kernel
    have hdir := hdirectory q (mem_parents_iff.mpr ⟨hleads, hne⟩)
    exact absurd (hfile.symm.trans hdir) (by simp)

/-- The index remembers that there was nothing, and a new one would find the module. -/
theorem stale_lateModule :
    ((library.play lateModule).index.lookup (library.play lateModule).disk "late").1 = .ok none ∧
    (library.index.lookup (library.play lateModule).disk "late").1 ≠ .ok none := by
  have hpath : isPath "late" = true := by decide +kernel
  have hmemory : (library.play lateModule).index.memory = [("late", none)] := by decide +kernel
  have hfile : (library.play lateModule).disk.isFile (moduleFile ⟨false, ["lib"]⟩ "late") =
      true := by decide +kernel
  constructor
  · simp [Index.lookup, hpath, hmemory, Memory.get?]
  · rw [Index.lookup_of_memory_eq_nil rfl, ite_cond_eq_true _ _ (eq_true hpath)]
    show load _ "late" [⟨false, ["lib"]⟩] ≠ .ok none
    unfold load
    split
    · rename_i hnone
      exact absurd hnone (loadBelow_ne_none (.inr hfile))
    · rename_i hfound
      exact hfound

end ScriptScope.Module
