import TraceArbiter.Facility.Simulation
import TraceArbiter.Proofs.Running

/-!
# Writes to a simulated facility

What a write leaves in the control files, and what a whole access can have touched. `WritesOnly`
bounds an access by the files it may write: the others hold what they held, the log grows by writes
to those files only, and nothing that can be made to fail changes. The bound composes, so that of
everything the arbiter writes comes from the bounds of the single control requests.
-/

namespace TraceArbiter

open Std

namespace Simulation

/-! ### Contents -/

theorem value?_poke (s : Simulation) (path value file : String) :
    (s.poke path value).value? file = if path = file then some value else s.value? file := by
  simp [poke, value?, ExtTreeMap.getElem?_insert]

/-- The facility after a write that stores `content` and is logged as `value`. -/
def written (s : Simulation) (path content value : String) : Simulation :=
  (s.poke path content).logged path value

@[simp]
theorem value?_written (s : Simulation) (path content value file : String) :
    (s.written path content value).value? file =
      if path = file then some content else s.value? file :=
  s.value?_poke path content file

@[simp]
theorem failingWrites_written (s : Simulation) (path content value : String) :
    (s.written path content value).failingWrites = s.failingWrites := rfl

/-! ### Single writes -/

theorem write_run_stored (s : Simulation) (path value : String) :
    (Facility.write path value : Access Simulation Unit).run.run s =
      if path ∈ s.failingWrites then (.error (.writeFailed path injected), s)
      else match s.stored path value with
        | .ok s' => (.ok (), s'.logged path value)
        | .error e => (.error e, s) := by
  change (write path value).run.run s = _
  unfold write
  rw [run_get_bind]
  by_cases h : path ∈ s.failingWrites
  · simp [h]
    rfl
  · cases s.stored path value <;> simp [h] <;> rfl

/-- Files other than the switch for all events and the clock listing take what is written. -/
theorem write_run (s : Simulation) {path : String} (value : String) (hall : path ≠ Control.allEvents)
    (hclock : path ≠ Control.traceClock) :
    (Facility.write path value : Access Simulation Unit).run.run s =
      if path ∈ s.failingWrites then (.error (.writeFailed path injected), s)
      else (.ok (), s.written path value value) := by
  rw [write_run_stored]
  simp [stored, hall, hclock, written]

theorem append_run (s : Simulation) (path value : String) :
    (Facility.append path value : Access Simulation Unit).run.run s =
      if path ∈ s.failingWrites then (.error (.writeFailed path injected), s)
      else (.ok (), s.written path (withLine ((s.value? path).getD "") value) value) := by
  change (append path value).run.run s = _
  unfold append
  rw [run_get_bind]
  by_cases h : path ∈ s.failingWrites
  · simp [h]
    rfl
  · simp [h]
    rfl

/-! ### Reading -/

theorem read_congr {s s' : Simulation} {path : String} (hreads : s'.failingReads = s.failingReads)
    (hvalue : s'.value? path = s.value? path) : Facility.read s' path = Facility.read s path := by
  change s'.read path = s.read path
  unfold read
  rw [hreads, hvalue]

/-! ### Bounds on what is written -/

/-- The second facility comes from the first by writes to files that `P` allows. -/
structure WritesOnly (P : String → Prop) (s s' : Simulation) : Prop where
  value?_eq : ∀ path, ¬P path → s'.value? path = s.value? path
  log_eq : ∃ entries, s'.log = s.log ++ entries ∧ ∀ entry ∈ entries, P entry.1
  failingWrites_eq : s'.failingWrites = s.failingWrites
  failingReads_eq : s'.failingReads = s.failingReads

namespace WritesOnly

variable {P Q : String → Prop} {s s' s'' : Simulation}

theorem refl (P : String → Prop) (s : Simulation) : s.WritesOnly P s :=
  ⟨fun _ _ => rfl, ⟨[], by simp⟩, rfl, rfl⟩

theorem trans (h : s.WritesOnly P s') (h' : s'.WritesOnly P s'') : s.WritesOnly P s'' := by
  obtain ⟨entries, hlog, hentries⟩ := h.log_eq
  obtain ⟨entries', hlog', hentries'⟩ := h'.log_eq
  refine ⟨?_, ⟨entries ++ entries', ?_, ?_⟩, ?_, ?_⟩
  · intro path hpath
    rw [h'.value?_eq path hpath, h.value?_eq path hpath]
  · rw [hlog', hlog, List.append_assoc]
  · intro entry hentry
    exact (List.mem_append.mp hentry).elim (hentries entry) (hentries' entry)
  · rw [h'.failingWrites_eq, h.failingWrites_eq]
  · rw [h'.failingReads_eq, h.failingReads_eq]

theorem mono (h : s.WritesOnly P s') (hPQ : ∀ path, P path → Q path) : s.WritesOnly Q s' := by
  obtain ⟨entries, hlog, hentries⟩ := h.log_eq
  refine ⟨?_, ⟨entries, hlog, ?_⟩, h.failingWrites_eq, h.failingReads_eq⟩
  · exact fun path hpath => h.value?_eq path fun hP => hpath (hPQ path hP)
  · exact fun entry hentry => hPQ entry.1 (hentries entry hentry)

theorem written {path : String} (content value : String) (hpath : P path) :
    s.WritesOnly P (s.written path content value) := by
  refine ⟨?_, ⟨[(path, value)], rfl, by simpa using hpath⟩, rfl, rfl⟩
  intro file hfile
  rw [value?_written, if_neg]
  rintro rfl
  exact hfile hpath

end WritesOnly

/-- What a write to the switch for all events sets: every switch there is, and nothing else. -/
theorem WritesOnly.of_stored {P : String → Prop} {s s' : Simulation} {path value : String}
    (hpath : P path) (hall : path = Control.allEvents → ∀ file, isSwitch file → P file)
    (hstored : s.stored path value = .ok s') : s.WritesOnly P (s'.logged path value) := by
  unfold stored at hstored
  split at hstored
  · next hpathAll =>
    cases hstored
    refine ⟨?_, ⟨[(path, value)], rfl, by simpa using hpath⟩, rfl, rfl⟩
    intro file hfile
    have hswitch : isSwitch file = false := by
      cases h : isSwitch file
      · rfl
      · exact absurd (hall hpathAll file h) hfile
    simp [value?, logged, ExtTreeMap.getElem?_map, hswitch]
  split at hstored
  · dsimp only at hstored
    split at hstored
    · cases hstored
      exact .written _ _ hpath
    · cases hstored
  · cases hstored
    exact .written _ _ hpath

end Simulation

/-! ### Bounded accesses -/

/-- The access writes no other files than those that `P` allows, whether it fails or not. -/
def Access.WritesOnly {α : Type} (P : String → Prop) (m : Access Simulation α) : Prop :=
  ∀ s : Simulation, s.WritesOnly P (m.run.run s).2

namespace Access.WritesOnly

variable {P : String → Prop}

/-- A write to the switch for all events is a write to every switch. -/
theorem write {path : String} (value : String) (hpath : P path)
    (hall : path = Control.allEvents → ∀ file, Simulation.isSwitch file → P file) :
    WritesOnly P (Facility.write path value) := by
  intro s
  rw [s.write_run_stored]
  split
  · exact .refl P s
  · split
    · next hstored => exact .of_stored hpath hall hstored
    · exact .refl P s

theorem append {path : String} (value : String) (hpath : P path) :
    WritesOnly P (Facility.append path value) := by
  intro s
  rw [s.append_run]
  split
  · exact .refl P s
  · exact .written _ _ hpath

end Access.WritesOnly

end TraceArbiter
