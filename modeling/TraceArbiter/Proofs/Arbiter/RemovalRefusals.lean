import TraceArbiter.Proofs.Arbiter.Refusals
import TraceArbiter.Proofs.Arbiter.Sessions
import TraceArbiter.Proofs.Event.Installed

/-!
# The writes that a removal is refused

A removal over a simulated facility names the files of the writes it was refused: filters on system
calls, the switches of stale events that are locked, and the switch of tracing if nobody records any
more. Each refusal is for the file alone, so what is noted tells which event is still on.
-/

namespace TraceArbiter

open Std

/-! ### Notes -/

namespace Watched

variable {σ α : Type} {P : String → Prop}

/-- Of a watched facility, the notes have grown by files that `P` allows. -/
def NotesOnly (P : String → Prop) (w w' : Watched σ) : Prop :=
  ∃ noted, w'.refused = w.refused ++ noted ∧ ∀ path ∈ noted, P path

theorem NotesOnly.refl (P : String → Prop) (w : Watched σ) : w.NotesOnly P w :=
  ⟨[], by simp⟩

theorem NotesOnly.trans {w w' w'' : Watched σ} (h : w.NotesOnly P w') (h' : w'.NotesOnly P w'') :
    w.NotesOnly P w'' := by
  obtain ⟨noted, hnoted, hP⟩ := h
  obtain ⟨noted', hnoted', hP'⟩ := h'
  refine ⟨noted ++ noted', by rw [hnoted', hnoted, List.append_assoc], fun path hpath => ?_⟩
  exact (List.mem_append.mp hpath).elim (hP path) (hP' path)

variable [Facility σ]

omit [Facility σ] in
theorem notesOnly_watch {path : String} (m : Access σ α) (hpath : P path) (w : Watched σ) :
    w.NotesOnly P ((watch path m).run.run w).2 := by
  change w.NotesOnly P ((watch path m).run.run ⟨w.facility, w.refused⟩).2
  rw [watch_run]
  split
  · exact .refl P w
  · exact ⟨[path], rfl, by simpa using hpath⟩

end Watched

namespace Arbiter

variable {a : Arbiter Simulation} {id : SessionId}

/-- Of an arbiter over a watched facility, the notes have grown by files that `P` allows. -/
def NotesOnly (P : String → Prop) (w w' : Arbiter (Watched Simulation)) : Prop :=
  w.facility.NotesOnly P w'.facility

instance (P : String → Prop) : Std.Refl (NotesOnly P) :=
  ⟨fun w => .refl P w.facility⟩

instance (P : String → Prop) : IsTrans (Arbiter (Watched Simulation)) (NotesOnly P) :=
  ⟨fun _ _ _ => .trans⟩

theorem NotesOnly.allows {P : String → Prop} {view : Installed → Installed} :
    Allows (NotesOnly P) P view where
  write _ _ hpath _ := fun w => Watched.notesOnly_watch _ hpath w.facility
  append _ _ hpath := fun w => Watched.notesOnly_watch _ hpath w.facility
  note _ _ := fun w => .refl P w.facility

theorem notesOnly_shrinkAnnotations :
    Relates (NotesOnly fun _ => False) (shrinkAnnotations (σ := Watched Simulation)) := by
  have hnone : ∀ w w' : Arbiter (Watched Simulation), w'.facility.refused = w.facility.refused →
      NotesOnly (fun _ => False) w w' := fun w w' h => ⟨[], by simp [h]⟩
  exact .shrinkAnnotations (fun _ _ w => hnone w _ rfl) (fun w => hnone w _ rfl) fun _ _ w =>
    hnone w _ rfl

theorem notesOnly_installSyscallFilter (extra : SyscallFilter) :
    Relates (NotesOnly (· ∈ Control.syscallFilters))
      (installSyscallFilter (σ := Watched Simulation) extra).run :=
  NotesOnly.allows.installSyscallFilter extra

/-! ### Stale events -/

theorem disableEvent_watched (event : EventId) (a : Arbiter Simulation) (refused : List String) :
    (disableEvent event).run (a.watched refused) =
      ((), ((disableEvent event).run a).2.watched (refused ++ (a.lockedSwitch? event).toList)) := by
  rw [disableEvent_run]
  unfold disableEvent Control.disableEvent lockedSwitch?
  rw [state_get_bind, watched_catalog]
  cases a.catalog.events.getById event with
  | none =>
    rw [Option.bind_none, Option.toList_none, List.append_nil]
    rfl
  | some e =>
    rw [Option.bind_some]
    dsimp only
    by_cases halways : e.isAlwaysOn
    · rw [if_pos halways, if_pos halways, if_neg fun h => h.1 halways, Option.toList_none,
        List.append_nil]
      rfl
    have hwrite : (Facility.write (Control.eventSwitch e.fullName) Control.off :
        Access (Watched Simulation) Unit).run.run (a.watched refused).facility = _ :=
      Watched.write_run a.facility refused _ (Simulation.eventSwitch_ne_allEvents _)
        (Simulation.eventSwitch_ne (by decide) _)
    rw [if_neg halways, if_neg halways, state_bind, access_run, hwrite]
    by_cases hfails : Control.eventSwitch e.fullName ∈ a.facility.failingWrites
    · simp only [if_pos hfails, if_pos (And.intro halways hfails), Option.toList_some]
      rfl
    · simp only [if_neg hfails, if_neg fun h : _ ∧ _ => hfails h.2, Option.toList_none,
        List.append_nil]
      rfl

theorem disableEvents_watched (events : List EventId) (a : Arbiter Simulation)
    (refused : List String) :
    (disableEvents events).run (a.watched refused) =
      ((), ((disableEvents events).run a).2.watched
        (refused ++ events.filterMap a.lockedSwitch?)) := by
  induction events generalizing a refused with
  | nil =>
    rw [List.filterMap_nil, List.append_nil]
    rfl
  | cons event events ih =>
    have hstep := disableEvent_watched event a refused
    unfold disableEvents
    rw [state_bind, state_bind, hstep, ih, (framed_disableEvent event a).lockedSwitch?,
      List.filterMap_cons, List.append_assoc]
    cases a.lockedSwitch? event <;> rfl

/-! ### The switch of tracing -/

theorem deactivate_run (id : SessionId) (a : Arbiter Simulation) :
    ((deactivate id).run a).2 =
      if id ∈ a.active then
        if (a.active.erase id).isEmpty ∧ Control.tracingOn ∉ a.facility.failingWrites then
          { a with
            active := a.active.erase id
            facility := a.facility.written Control.tracingOn Control.off Control.off }
        else { a with active := a.active.erase id }
      else a := by
  have hwrite : (Control.setTracingOn false : Access Simulation Unit).run.run a.facility = _ :=
    a.facility.write_run Control.off (by decide) (by decide)
  unfold deactivate
  rw [state_get_bind]
  by_cases hactive : id ∈ a.active
  · rw [if_pos hactive, if_pos (ExtTreeSet.mem_iff_contains.mp hactive)]
    dsimp only
    rw [state_bind]
    by_cases hlast : (a.active.erase id).isEmpty
    · rw [if_pos hlast]
      change ((access (Control.setTracingOn false)).run { a with active := a.active.erase id }).2 = _
      rw [access_run, hwrite]
      by_cases hfails : Control.tracingOn ∈ a.facility.failingWrites
      · rw [if_pos hfails, if_neg (not_and_of_not_right _ (not_not_intro hfails))]
      · rw [if_neg hfails, if_pos ⟨hlast, hfails⟩]
    · rw [if_neg hlast, if_neg fun h : _ ∧ _ => hlast h.1]
      rfl
  · rw [if_neg hactive, if_neg fun h => hactive (ExtTreeSet.mem_iff_contains.mpr h)]
    rfl

/-- The note of a removal that cannot turn tracing off. -/
def lockedTracing (a : Arbiter Simulation) (id : SessionId) : List String :=
  if id ∈ a.active ∧ (a.active.erase id).isEmpty ∧
      Control.tracingOn ∈ a.facility.failingWrites then [Control.tracingOn]
  else []

theorem deactivate_notes (id : SessionId) (a : Arbiter Simulation) (refused : List String) :
    ((deactivate id).run (a.watched refused)).2.facility.refused = refused ++ a.lockedTracing id := by
  have hwrite : (Control.setTracingOn false : Access (Watched Simulation) Unit).run.run
      (a.watched refused).facility = _ :=
    Watched.write_run a.facility refused Control.off (by decide) (by decide)
  unfold deactivate lockedTracing
  rw [state_get_bind, watched_active]
  by_cases hactive : id ∈ a.active
  · rw [if_pos (ExtTreeSet.mem_iff_contains.mp hactive)]
    dsimp only
    rw [state_bind]
    by_cases hlast : (a.active.erase id).isEmpty
    · rw [if_pos hlast]
      change ((access (Control.setTracingOn false)).run
        { a.watched refused with active := a.active.erase id }).2.facility.refused = _
      rw [access_run, hwrite]
      by_cases hfails : Control.tracingOn ∈ a.facility.failingWrites
      · rw [if_pos hfails, if_pos ⟨hactive, hlast, hfails⟩]
      · rw [if_neg hfails, if_neg fun h : _ ∧ _ ∧ _ => hfails h.2.2, List.append_nil]
    · rw [if_neg hlast, if_neg fun h : _ ∧ _ ∧ _ => hlast h.2.1, List.append_nil]
      rfl
  · rw [if_neg fun h => hactive (ExtTreeSet.mem_iff_contains.mpr h), if_neg fun h : _ ∧ _ => hactive h.1,
      List.append_nil]
    rfl

/-! ### The whole removal -/

section Frame

variable {P : String → Prop} {view : Installed → Installed} {a' : Arbiter Simulation}

theorem Frame.staleEvents (h : Frame P view a a') (hview : ∀ i, (view i).events = i.events) :
    a'.staleEvents = a.staleEvents := by
  unfold Arbiter.staleEvents
  rw [h.configs, h.belief Installed.events hview]

theorem Frame.lockedTracing (h : Frame P view a a') : a'.lockedTracing = a.lockedTracing := by
  funext id
  unfold Arbiter.lockedTracing
  rw [h.active, h.facility.failingWrites_eq]

end Frame

/-- Up to the events, a removal is refused filters on system calls only. -/
theorem beforeEvents_watched (a : Arbiter Simulation) (id : SessionId) :
    ∃ filters, (∀ path ∈ filters, path ∈ Control.syscallFilters) ∧
      (a.watched []).beforeEvents id = (a.beforeEvents id).watched filters := by
  -- A translation gives the state with some notes, and `NotesOnly` says what these are.
  obtain ⟨noted, -, hannotations⟩ := translates_shrinkAnnotations.exists_noted (a.without id) []
  obtain ⟨none, hnone, hfalse⟩ := notesOnly_shrinkAnnotations ((a.without id).watched [])
  obtain rfl : none = [] := List.eq_nil_iff_forall_not_mem.mpr hfalse
  rw [hannotations] at hnone
  obtain rfl : noted = [] := hnone
  have hinstall := (Translation.faithful_watched (σ := Simulation)).installSyscallFilter .none
  obtain ⟨noted, -, hfilter⟩ := hinstall.exists_noted (shrinkAnnotations.run (a.without id)).2 []
  obtain ⟨filters, hfilters, hcontrol⟩ := notesOnly_installSyscallFilter .none
    ((shrinkAnnotations.run (a.without id)).2.watched [])
  rw [hfilter] at hfilters
  obtain rfl : noted = filters := hfilters
  refine ⟨noted, hcontrol, ?_⟩
  unfold beforeEvents
  rw [show (a.watched []).without id = (a.without id).watched [] from rfl, hannotations]
  exact congrArg Prod.snd hfilter

/-- The writes that a removal is refused: some filters on system calls, the switches of the stale
events that are locked, and that of tracing. -/
theorem refusedWrites_remove (hregistered : a.isRegistered id) :
    ∃ filters, (∀ path ∈ filters, path ∈ Control.syscallFilters) ∧
      refusedWrites (remove id) a = filters ++
        (a.without id).staleEvents.filterMap a.lockedSwitch? ++ a.lockedTracing id := by
  obtain ⟨filters, hcontrol, hbefore⟩ := beforeEvents_watched a id
  have hframe := frame_beforeEvents a id
  have hstale : ((a.beforeEvents id).watched filters).staleEvents = (a.without id).staleEvents :=
    hframe.staleEvents fun _ => rfl
  have hlocked : (a.beforeEvents id).lockedSwitch? = a.lockedSwitch? := hframe.lockedSwitch?
  have htracing : ((disableEvents (a.without id).staleEvents).run
      (a.beforeEvents id)).2.lockedTracing = a.lockedTracing :=
    (framed_disableEvents _ (a.beforeEvents id)).lockedTracing.trans hframe.lockedTracing
  refine ⟨filters, hcontrol, ?_⟩
  unfold refusedWrites
  rw [remove_registered_run (show (a.watched []).isRegistered id from hregistered), hbefore]
  rw [shrinkEvents_run, hstale, disableEvents_watched]
  dsimp only
  rw [deactivate_notes, htracing, hlocked]

/-! ### Only what is made to fail -/

/-- The notes have grown by files whose writes are made to fail, and the same writes still are. -/
structure NotesFailing (w w' : Arbiter (Watched Simulation)) : Prop where
  failing : w'.facility.facility.failingWrites = w.facility.facility.failingWrites
  notes : NotesOnly (· ∈ w.facility.facility.failingWrites) w w'

namespace NotesFailing

variable {w w' w'' : Arbiter (Watched Simulation)}

theorem of_same (hfailing : w'.facility.facility.failingWrites = w.facility.facility.failingWrites)
    (hnotes : w'.facility.refused = w.facility.refused) : NotesFailing w w' :=
  ⟨hfailing, [], by simp [hnotes]⟩

theorem trans (h : NotesFailing w w') (h' : NotesFailing w' w'') : NotesFailing w w'' := by
  have hnotes := h'.notes
  rw [h.failing] at hnotes
  exact ⟨h'.failing.trans h.failing, h.notes.trans hnotes⟩

instance : Std.Refl NotesFailing :=
  ⟨fun _ => of_same rfl rfl⟩

instance : IsTrans (Arbiter (Watched Simulation)) NotesFailing :=
  ⟨fun _ _ _ => trans⟩

/-- It is enough that an access is refused only if its file is made to fail. -/
theorem watch {path : String} {m : Access Simulation Unit} (hkeeps : Access.WritesOnly (fun _ => True) m)
    (hfails : ∀ s e s', m.run.run s = (.error e, s') → path ∈ s.failingWrites) :
    Relates NotesFailing (access (Watched.watch path m)) := by
  intro w
  have hfailing := (hkeeps w.facility.facility).failingWrites_eq
  have hwatch := Watched.watch_run path m w.facility.facility w.facility.refused
  rw [access_run]
  change NotesFailing w { w with
    facility := ((Watched.watch path m).run.run ⟨w.facility.facility, w.facility.refused⟩).2 }
  match hrun : m.run.run w.facility.facility with
  | (.ok x, s') =>
    rw [hrun] at hwatch hfailing
    rw [hwatch]
    exact of_same hfailing rfl
  | (.error e, s') =>
    rw [hrun] at hwatch hfailing
    rw [hwatch]
    exact ⟨hfailing, [path], rfl, by simpa using hfails _ _ _ hrun⟩

/-- By itself a facility refuses a write only if it is to the clock listing. -/
theorem allows {P : String → Prop} {view : Installed → Installed} (hclock : ¬P Control.traceClock) :
    Allows NotesFailing P view where
  write path value hpath _ := by
    have hne : path ≠ Control.traceClock := by
      rintro rfl
      exact hclock hpath
    refine watch (.write value trivial fun _ _ _ => trivial) fun s e s' hrun => ?_
    rw [s.write_run_stored] at hrun
    split at hrun
    · assumption
    · split at hrun
      · cases hrun
      · next hstored =>
        unfold Simulation.stored at hstored
        rw [if_neg hne] at hstored
        split at hstored <;> cases hstored
  append path value _ := by
    refine watch (.append value trivial) fun s e s' hrun => ?_
    rw [s.append_run] at hrun
    split at hrun
    · assumption
    · cases hrun
  note _ _ := fun _ => of_same rfl rfl

theorem shrinkAnnotations : Relates NotesFailing (shrinkAnnotations (σ := Watched Simulation)) := by
  refine .shrinkAnnotations (fun apps categories w => ?_) (fun w => of_same rfl rfl) fun _ _ w =>
    of_same rfl rfl
  have hkeeps := Access.WritesOnly.startAnnotations apps categories w.facility.facility
  exact of_same hkeeps.failingWrites_eq rfl

/-- Who is recording is nothing to the facility. -/
theorem deactivate (id : SessionId) (w : Arbiter (Watched Simulation)) :
    NotesFailing w ((deactivate id).run w).2 := by
  have hstopped := (allows (by decide)).deactivate id w
  exact ⟨hstopped.failing, hstopped.notes⟩

theorem remove (hregistered : w.isRegistered id) : NotesFailing w ((remove id).run w).2 := by
  have hwithout : NotesFailing w (w.without id) := of_same rfl rfl
  have hannotated := hwithout.trans (shrinkAnnotations (w.without id))
  have hfiltered : NotesFailing w (w.beforeEvents id) :=
    hannotated.trans ((allows (by decide)).shrinkSyscallFilter _)
  have hshrunk := hfiltered.trans ((allows (by decide)).shrinkEvents (w.beforeEvents id))
  rw [remove_registered_run hregistered]
  exact hshrunk.trans (deactivate id _)

end NotesFailing

/-- A removal is refused only writes that are made to fail. -/
theorem mem_failingWrites_of_refused {path : String} (hpath : path ∈ refusedWrites (remove id) a) :
    path ∈ a.facility.failingWrites := by
  by_cases hregistered : a.isRegistered id
  · obtain ⟨noted, hnoted, hfails⟩ :=
      (NotesFailing.remove (show (a.watched []).isRegistered id from hregistered)).notes
    unfold refusedWrites at hpath
    rw [hnoted] at hpath
    exact hfails path hpath
  · unfold refusedWrites at hpath
    rw [remove_run, if_neg (show ¬(a.watched []).isRegistered id from hregistered)] at hpath
    cases hpath

end Arbiter

end TraceArbiter
