import Mathlib.Data.List.DropRight
import Mathlib.Logic.Function.Basic
import TraceArbiter.Facility.Mounted
import TraceArbiter.Proofs.Facility.Overwritten
import TraceArbiter.Proofs.Facility.Writes
import TraceArbiter.Proofs.Text.Lines

/-!
# The lists of functions

The function graph tracer goes by two lists of functions, each in a control file of its own. Every
facility is told in the same way to clear a list or to append to it, but what stands in the files
differs: the simulated facility has a newline between two entries, and the mounted one has a newline
behind each. So the files are compared by their lines, and each facility with a record of what the
calls come to. Laws of a single write, append and read are all that is needed of a facility; what a run
of calls leaves in the files follows from them, once for both.
-/

namespace TraceArbiter

open Std

/-- The functions that are traced, and those whose calls the graph is drawn from. -/
inductive FilterList where
  | functions
  | roots
  deriving DecidableEq

namespace FilterList

def path : FilterList → String
  | functions => Control.functionFilter
  | roots => Control.graphFilter

theorem path_inj {list list' : FilterList} : list.path = list'.path ↔ list = list' := by
  cases list <;> cases list' <;> decide

theorem isFileName_path (list : FilterList) : FileTree.IsFileName list.path := by
  cases list <;> decide

theorem path_ne_allEvents (list : FilterList) : list.path ≠ Control.allEvents := by
  cases list <;> decide

theorem path_ne_traceClock (list : FilterList) : list.path ≠ Control.traceClock := by
  cases list <;> decide

end FilterList

/-! ### Calls -/

/-- A call that clears a list, or one that appends entries to it. -/
inductive ListCall where
  | clear (list : FilterList)
  | append (list : FilterList) (entries : List String)
  deriving DecidableEq

/-- The entries of each list, as far as it is known what they are. -/
abbrev Lists : Type :=
  FilterList → Option (List String)

namespace Lists

/-- Entries that are known can be told apart in a file. -/
def AreLines (lists : Lists) : Prop :=
  ∀ list entries, lists list = some entries → ∀ entry ∈ entries, Text.IsLine entry

end Lists

namespace ListCall

variable {σ : Type} [Facility σ] {list : FilterList} {lists : Lists} {calls : List ListCall}

def perform : ListCall → Access σ Unit
  | clear .functions => Control.clearFunctionFilters
  | clear .roots => Control.clearGraphFilters
  | append .functions filters => Control.appendFunctionFilters filters
  | append .roots roots => Control.appendGraphFilters roots

def performAll : List ListCall → Access σ Unit :=
  Control.forEach perform

/-- The entries are such that they can be told apart in a file. -/
def IsProper : ListCall → Prop
  | clear _ => True
  | append _ entries => ∀ entry ∈ entries, Text.IsLine entry

instance : DecidablePred IsProper
  | clear _ => inferInstanceAs (Decidable True)
  | append _ entries => inferInstanceAs (Decidable (∀ entry ∈ entries, Text.IsLine entry))

def entriesFor (list : FilterList) : ListCall → List String
  | clear _ => []
  | append list' entries => if list' = list then entries else []

/-- The entries that calls have appended to a list since the last one that cleared it. -/
def sinceCleared (list : FilterList) (calls : List ListCall) : List String :=
  (calls.rtakeWhile (· ≠ clear list)).flatMap (entriesFor list)

theorem sinceCleared_concat (calls : List ListCall) (call : ListCall) :
    sinceCleared list (calls ++ [call]) =
      if call = clear list then [] else sinceCleared list calls ++ call.entriesFor list := by
  unfold sinceCleared
  rw [List.rtakeWhile_concat]
  by_cases h : call = clear list <;> simp [h]

/-- What a call makes of the lists. -/
def keep (lists : Lists) : ListCall → Lists
  | clear list => Function.update lists list (some [])
  | append list entries => Function.update lists list ((lists list).map (· ++ entries))

theorem keep_apply (lists : Lists) (call : ListCall) (list : FilterList) :
    keep lists call list =
      if call = clear list then some [] else (lists list).map (· ++ call.entriesFor list) := by
  cases call with
  | clear list' =>
    by_cases h : list' = list
    · simp [keep, h]
    · simp [keep, entriesFor, h, Function.update_of_ne (Ne.symm h)]
  | append list' entries =>
    by_cases h : list' = list
    · simp [keep, entriesFor, h]
    · simp [keep, entriesFor, h, Function.update_of_ne (Ne.symm h)]

/-- The calls tell what is in a list from where they clear it. -/
theorem foldl_keep (calls : List ListCall) (list : FilterList) :
    calls.foldl keep (fun _ => none) list =
      if clear list ∈ calls then some (sinceCleared list calls) else none := by
  induction calls using List.reverseRecOn with
  | nil => rfl
  | append_singleton calls call ih =>
    rw [List.foldl_append, List.foldl_cons, List.foldl_nil, keep_apply, ih, sinceCleared_concat]
    by_cases hcall : call = clear list
    · simp [hcall]
    · by_cases hcleared : clear list ∈ calls <;> simp [hcall, hcleared, Ne.symm hcall]

theorem keep_append_nil (lists : Lists) (list : FilterList) : keep lists (append list []) = lists := by
  ext1 list'
  rw [keep_apply, if_neg nofun]
  simp [entriesFor]

theorem keep_append_cons (lists : Lists) (list : FilterList) (entry : String) (entries : List String) :
    keep (keep lists (append list [entry])) (append list entries) =
      keep lists (append list (entry :: entries)) := by
  have happend : (· ++ entries) ∘ (· ++ [entry]) = (· ++ entry :: entries) := by
    ext1 kept
    rw [Function.comp_apply, List.append_assoc, List.singleton_append]
  rw [keep, keep, keep, Function.update_self, Function.update_idem, Option.map_map, happend]

end ListCall

theorem Lists.AreLines.keep {lists : Lists} (h : lists.AreLines) {call : ListCall}
    (hcall : call.IsProper) : (call.keep lists).AreLines := by
  intro list entries hentries
  rw [ListCall.keep_apply] at hentries
  split at hentries
  · cases hentries
    exact nofun
  · obtain ⟨kept, hkept, rfl⟩ := Option.map_eq_some_iff.mp hentries
    refine List.forall_mem_append.mpr ⟨h list kept hkept, ?_⟩
    cases call with
    | clear => exact nofun
    | append list' added =>
      dsimp only [ListCall.entriesFor]
      split
      · exact hcall
      · exact nofun

/-! ### Facilities that serve the lists -/

/-- What single accesses do to the lists that a facility shows in its files. -/
structure ServesLists (σ : Type) [Facility σ] (Shows : σ → Lists → Prop) : Prop where
  clear {f : σ} {lists : Lists} (list : FilterList) (hshows : Shows f lists) :
    ∃ f', (Facility.write list.path "" : Access σ Unit).run.run f = (.ok (), f') ∧
      Shows f' (ListCall.keep lists (.clear list))
  append {f : σ} {lists : Lists} (list : FilterList) {entry : String} (hshows : Shows f lists)
    (hlines : lists.AreLines) (hentry : Text.IsLine entry) :
    ∃ f', (Facility.append list.path entry : Access σ Unit).run.run f = (.ok (), f') ∧
      Shows f' (ListCall.keep lists (.append list [entry]))
  read {f : σ} {lists : Lists} {list : FilterList} {entries : List String} (hshows : Shows f lists)
    (hlines : lists.AreLines) (hentries : lists list = some entries) :
    (Facility.read f list.path).map Text.lines = .ok entries

namespace ServesLists

variable {σ : Type} [Facility σ] {Shows : σ → Lists → Prop} (h : ServesLists σ Shows) {f : σ}
  {lists : Lists}

include h

theorem appendAll (list : FilterList) {entries : List String} (hentries : ∀ e ∈ entries, Text.IsLine e)
    (hshows : Shows f lists) (hlines : lists.AreLines) :
    ∃ f', (Control.forEach (Facility.append list.path) entries : Access σ Unit).run.run f =
        (.ok (), f') ∧
      Shows f' (ListCall.keep lists (.append list entries)) := by
  induction entries generalizing f lists with
  | nil => exact ⟨f, rfl, by rwa [ListCall.keep_append_nil]⟩
  | cons entry entries ih =>
    obtain ⟨hentry, hentries⟩ := List.forall_mem_cons.mp hentries
    obtain ⟨f₁, hrun, hshows₁⟩ := h.append list hshows hlines hentry
    have hlines₁ : (ListCall.keep lists (.append list [entry])).AreLines :=
      hlines.keep fun e he => List.mem_singleton.mp he ▸ hentry
    obtain ⟨f', hrest, hshows'⟩ := ih hentries hshows₁ hlines₁
    rw [ListCall.keep_append_cons] at hshows'
    exact ⟨f', (run_bind_ok hrun).trans hrest, hshows'⟩

theorem perform {call : ListCall} (hcall : call.IsProper) (hshows : Shows f lists)
    (hlines : lists.AreLines) :
    ∃ f', (call.perform : Access σ Unit).run.run f = (.ok (), f') ∧ Shows f' (call.keep lists) := by
  cases call with
  | clear list =>
    have hperform : (ListCall.clear list).perform = (Facility.write list.path "" : Access σ Unit) := by
      cases list <;> rfl
    rw [hperform]
    exact h.clear list hshows
  | append list entries =>
    have hperform : (ListCall.append list entries).perform =
        (Control.forEach (Facility.append list.path) entries : Access σ Unit) := by
      cases list <;> rfl
    rw [hperform]
    exact h.appendAll list hcall hshows hlines

theorem performAll {calls : List ListCall} (hcalls : ∀ call ∈ calls, call.IsProper)
    (hshows : Shows f lists) (hlines : lists.AreLines) :
    ∃ f', (ListCall.performAll calls : Access σ Unit).run.run f = (.ok (), f') ∧
      Shows f' (calls.foldl ListCall.keep lists) ∧ (calls.foldl ListCall.keep lists).AreLines := by
  induction calls generalizing f lists with
  | nil => exact ⟨f, rfl, hshows, hlines⟩
  | cons call calls ih =>
    obtain ⟨hcall, hcalls⟩ := List.forall_mem_cons.mp hcalls
    obtain ⟨f₁, hrun, hshows₁⟩ := h.perform hcall hshows hlines
    obtain ⟨f', hrest, hshows'⟩ := ih hcalls hshows₁ (hlines.keep hcall)
    exact ⟨f', (run_bind_ok hrun).trans hrest, hshows'⟩

/-- From wherever a list has been cleared, its file shows what has been appended since. -/
theorem shows_sinceCleared {calls : List ListCall} (hcalls : ∀ call ∈ calls, call.IsProper)
    (hshows : Shows f fun _ => none) :
    ∃ f', (ListCall.performAll calls : Access σ Unit).run.run f = (.ok (), f') ∧
      ∀ list, .clear list ∈ calls →
        (Facility.read f' list.path).map Text.lines = .ok (ListCall.sinceCleared list calls) := by
  obtain ⟨f', hrun, hshows', hlines⟩ := h.performAll hcalls hshows fun _ _ => nofun
  refine ⟨f', hrun, fun list hcleared => h.read hshows' hlines ?_⟩
  rw [ListCall.foldl_keep, if_pos hcleared]

end ServesLists

/-! ### The simulated facility -/

namespace Simulation

variable {s : Simulation} {lists : Lists}

/-- The files of the lists can be used, and entries stand in them with newlines in between. -/
structure ShowsLists (s : Simulation) (lists : Lists) : Prop where
  writable (list : FilterList) : list.path ∉ s.failingWrites
  readable (list : FilterList) : list.path ∉ s.failingReads
  content (list : FilterList) (entries : List String) (h : lists list = some entries) :
    s.value? list.path = some (Text.separated entries)

theorem ShowsLists.written (h : s.ShowsLists lists) (list : FilterList) {content : String}
    (value : String) {new : Option (List String)}
    (hnew : ∀ entries, new = some entries → content = Text.separated entries) :
    (s.written list.path content value).ShowsLists (Function.update lists list new) where
  writable := h.writable
  readable := h.readable
  content list' entries hentries := by
    rw [value?_written]
    by_cases heq : list = list'
    · subst heq
      rw [Function.update_self] at hentries
      rw [if_pos rfl, hnew entries hentries]
    · rw [Function.update_of_ne (Ne.symm heq)] at hentries
      rw [if_neg (mt FilterList.path_inj.mp heq), h.content list' entries hentries]

theorem withLine_separated {entries : List String} (hentries : ∀ e ∈ entries, Text.IsLine e)
    (line : String) : withLine (Text.separated entries) line = Text.separated (entries ++ [line]) := by
  unfold withLine
  cases entries with
  | nil => exact String.intercalate_singleton.symm
  | cons entry entries =>
    have hne : Text.separated (entry :: entries) ≠ "" := by
      intro hempty
      have hlines := Text.lines_separated hentries
      rw [hempty] at hlines
      cases hlines
    rw [if_neg (mt String.isEmpty_iff.mp hne), Text.separated, Text.separated,
      String.intercalate_append_of_ne_nil (List.cons_ne_nil _ _) (List.cons_ne_nil _ _),
      String.intercalate_singleton]

theorem servesLists : ServesLists Simulation ShowsLists where
  clear {s lists} list hshows := by
    have hrun := s.write_run "" list.path_ne_allEvents list.path_ne_traceClock
    rw [if_neg (hshows.writable list)] at hrun
    refine ⟨_, hrun, hshows.written list "" fun entries hentries => ?_⟩
    cases hentries
    rfl
  append {s lists} list line hshows hlines _ := by
    have hrun := s.append_run list.path line
    rw [if_neg (hshows.writable list)] at hrun
    refine ⟨_, hrun, hshows.written list line fun entries hentries => ?_⟩
    obtain ⟨kept, hkept, rfl⟩ := Option.map_eq_some_iff.mp hentries
    rw [hshows.content list kept hkept, Option.getD_some, withLine_separated (hlines list kept hkept)]
  read {s lists list entries} hshows hlines hentries := by
    change (s.read list.path).map Text.lines = _
    unfold read
    rw [if_neg (mt ExtTreeSet.contains_iff_mem.mp (hshows.readable list)),
      hshows.content list entries hentries]
    exact congrArg Except.ok (Text.lines_separated (hlines list entries hentries))

end Simulation

/-! ### The mounted facility -/

namespace Mounted

variable {m : Mounted} {lists : Lists}

/-- The paths of the lists open files, and entries stand in them with a newline behind each. -/
def ShowsLists (m : Mounted) (lists : Lists) : Prop :=
  ∀ list : FilterList, ∃ place content,
    m.files.openFile (FileTree.join m.root list.path) = .ok (place, content) ∧
      ∀ entries, lists list = some entries → content = (Text.ended entries).toUTF8

theorem update_run {path : String} {place : List String} {content : ByteArray}
    (h : m.files.openFile (FileTree.join m.root path) = .ok (place, content))
    (change : ByteArray → ByteArray) :
    (update path change).run.run m =
      (.ok (), { m with files := m.files.put place (.file (change content)) }) := by
  unfold update
  rw [run_get_bind, h]
  rfl

/-- Changing the file of one list leaves the other list alone. -/
theorem ShowsLists.update (h : m.ShowsLists lists) (list : FilterList)
    {change : ByteArray → ByteArray} {new : Option (List String)}
    (hnew : ∀ content,
      (∀ entries, lists list = some entries → content = (Text.ended entries).toUTF8) →
        ∀ entries, new = some entries → change content = (Text.ended entries).toUTF8) :
    ∃ m', (Mounted.update list.path change).run.run m = (.ok (), m') ∧
      m'.ShowsLists (Function.update lists list new) := by
  obtain ⟨place, content, hopen, hcontent⟩ := h list
  obtain ⟨hpath, hplace⟩ := FileTree.openFile_eq_ok_iff.mp hopen
  refine ⟨_, update_run hopen change, fun list' => ?_⟩
  dsimp only
  simp only [FileTree.openFile_put hplace]
  by_cases heq : list' = list
  · subst heq
    refine ⟨place, change content, if_pos hpath, ?_⟩
    rw [Function.update_self]
    exact hnew content hcontent
  · obtain ⟨place', content', hopen', hcontent'⟩ := h list'
    -- The two paths end in different names, and so do the places that they lead to.
    have hother : m.files.locate (FileTree.join m.root list'.path) ≠ .ok place := by
      intro hsame
      have hname := FileTree.getLast?_of_locate_join m.root list.isFileName_path hpath
      have hname' := FileTree.getLast?_of_locate_join m.root list'.isFileName_path hsame
      exact heq (FilterList.path_inj.mp (Option.some.inj (hname'.symm.trans hname)))
    refine ⟨place', content', (if_neg hother).trans hopen', ?_⟩
    rw [Function.update_of_ne heq]
    exact hcontent'

theorem servesLists : ServesLists Mounted ShowsLists where
  clear {m lists} list hshows := by
    refine hshows.update list fun content _ entries hentries => ?_
    cases hentries
    rfl
  append {m lists} list line hshows _ _ := by
    refine hshows.update list fun content hcontent entries hentries => ?_
    obtain ⟨kept, hkept, rfl⟩ := Option.map_eq_some_iff.mp hentries
    rw [hcontent kept hkept, Text.ended_concat]
    exact String.toByteArray_append.symm
  read {m lists list entries} hshows hlines hentries := by
    obtain ⟨place, content, hopen, hcontent⟩ := hshows list
    obtain ⟨hpath, hplace⟩ := FileTree.openFile_eq_ok_iff.mp hopen
    have htext : m.files.readText (FileTree.join m.root list.path) = .ok (Text.ended entries) := by
      refine FileTree.readText_eq_ok_iff.mpr ⟨place, content, hpath, hplace, ?_⟩
      rw [hcontent entries hentries]
      exact dif_pos (Text.ended entries).isValidUTF8
    change (m.read list.path).map Text.lines = _
    unfold read
    rw [htext]
    exact congrArg Except.ok (Text.lines_ended (hlines list entries hentries))

end Mounted

/-! ### Both facilities -/

/-- A simulated facility whose files can be used and a mounted one whose files are there take all calls,
in whatever order. As soon as a list has been cleared, and after every call from then on, its files have
the same lines in both, and these are the entries that have been appended since the last clear. -/
theorem ListCall.filterLists_agree (s : Simulation) (m : Mounted) (calls : List ListCall)
    (hwritable : ∀ list : FilterList, list.path ∉ s.failingWrites)
    (hreadable : ∀ list : FilterList, list.path ∉ s.failingReads)
    (hfiles : ∀ list : FilterList, m.files.isFile (FileTree.join m.root list.path))
    (hcalls : ∀ call ∈ calls, call.IsProper) :
    ∃ s' m', (performAll calls : Access Simulation Unit).run.run s = (.ok (), s') ∧
      (performAll calls : Access Mounted Unit).run.run m = (.ok (), m') ∧
      ∀ list, clear list ∈ calls →
        (Facility.read s' list.path).map Text.lines = .ok (sinceCleared list calls) ∧
        (Facility.read m' list.path).map Text.lines = .ok (sinceCleared list calls) := by
  have hsimulated : s.ShowsLists fun _ => none := ⟨hwritable, hreadable, fun _ _ => nofun⟩
  have hmounted : m.ShowsLists fun _ => none := by
    intro list
    obtain ⟨place, content, hopen⟩ := FileTree.isFile_iff.mp (hfiles list)
    exact ⟨place, content, hopen, fun _ => nofun⟩
  obtain ⟨s', hs, hshows⟩ := Simulation.servesLists.shows_sinceCleared hcalls hsimulated
  obtain ⟨m', hm, hshows'⟩ := Mounted.servesLists.shows_sinceCleared hcalls hmounted
  exact ⟨s', m', hs, hm, fun list hcleared => ⟨hshows list hcleared, hshows' list hcleared⟩⟩

/-- Both files hold something that others have left. -/
def leftoverLists : Mounted where
  files := .directory [("tracing", .directory
    [(Control.functionFilter, .file "old_function".toUTF8),
      (Control.graphFilter, .file "old_root\r\n".toUTF8)])]
  root := "/tracing/."

def interleavedCalls : List ListCall :=
  [.clear .functions, .append .functions ["vfs_read"], .clear .roots,
    .append .roots ["schedule", "do_idle"], .clear .functions, .append .functions [],
    .append .functions ["tcp_*", "udp_*"], .append .roots ["schedule"]]

theorem ListCall.filterLists_agree_interleaved :
    ∃ s' m', (performAll interleavedCalls : Access Simulation Unit).run.run .idle = (.ok (), s') ∧
      (performAll interleavedCalls : Access Mounted Unit).run.run leftoverLists = (.ok (), m') ∧
      (Facility.read s' Control.functionFilter).map Text.lines = .ok ["tcp_*", "udp_*"] ∧
      (Facility.read m' Control.functionFilter).map Text.lines = .ok ["tcp_*", "udp_*"] ∧
      (Facility.read s' Control.graphFilter).map Text.lines = .ok ["schedule", "do_idle", "schedule"] ∧
      (Facility.read m' Control.graphFilter).map Text.lines = .ok ["schedule", "do_idle", "schedule"] := by
  have hfiles : ∀ list : FilterList,
      leftoverLists.files.isFile (FileTree.join leftoverLists.root list.path) := by
    intro list
    cases list <;> decide +kernel
  obtain ⟨s', m', hs, hm, hlines⟩ := filterLists_agree .idle leftoverLists interleavedCalls
    (fun list => by cases list <;> decide +kernel) (fun list => by cases list <;> decide +kernel)
    hfiles (by decide +kernel)
  obtain ⟨hfunctions, hfunctions'⟩ := hlines .functions (by decide)
  obtain ⟨hroots, hroots'⟩ := hlines .roots (by decide)
  exact ⟨s', m', hs, hm, hfunctions, hfunctions', hroots, hroots'⟩

end TraceArbiter
