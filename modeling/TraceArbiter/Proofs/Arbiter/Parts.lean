import TraceArbiter.Arbiter.Activation
import TraceArbiter.Arbiter.Removal
import TraceArbiter.Arbiter.TracerReset
import TraceArbiter.Proofs.Arbiter.Relates
import TraceArbiter.Proofs.Facility.Switches

/-!
# The parts of the operations

The files that each part of a setup, a removal and a tracer reset may write, and the beliefs that it
may change. A belief is named by what is left when it is erased: a step that keeps
`Installed.withoutClock` changes the clock at most. A relation that allows the writes and the changes
of a part goes through the part, whatever fails on the way, so each part is walked only once, here.
-/

namespace TraceArbiter

open Std

namespace Control

/-- The files that only the function graph tracer uses. -/
def tracerFiles : List String :=
  [currentTracer, functionFilter, graphFilter]

end Control

namespace Installed

def withoutEvents (i : Installed) : Installed :=
  { i with events := {} }

def withoutSyscallFilter (i : Installed) : Installed :=
  { i with syscallFilter := .none }

def withoutFunctionGraph (i : Installed) : Installed :=
  { i with functionGraph := false }

def withoutBuffer (i : Installed) : Installed :=
  { i with bufferPages := 0 }

def withoutClock (i : Installed) : Installed :=
  { i with clock := none }

def withoutAnnotations (i : Installed) : Installed :=
  { i with annotationsOn := false, apps := [], categories := [] }

end Installed

namespace Arbiter

/-- The files that a setup needs to be able to write. -/
def essentialFiles : List String :=
  Control.syscallFilters ++ Control.bufferSize :: Control.tracerFiles

variable {σ : Type} [Facility σ] {T : Arbiter σ → Arbiter σ → Prop} {P Q : String → Prop}
  {view view' : Installed → Installed}

/-- The relation goes through every write to a file that `P` allows and every change of beliefs that
`view` does not show. A write to the switch for all events is a write to every switch. -/
structure Allows (T : Arbiter σ → Arbiter σ → Prop) (P : String → Prop)
    (view : Installed → Installed) : Prop where
  write (path value : String) (hpath : P path)
    (hall : path = Control.allEvents → ∀ file, Simulation.isSwitch file → P file) :
    Relates T (access (Facility.write path value))
  append (path value : String) (hpath : P path) : Relates T (access (Facility.append path value))
  note (change : Installed → Installed) (hchange : ∀ i, view (change i) = view i) :
    Relates T (modify (note change))

namespace Allows

theorem mono (h : Allows T Q view') (hPQ : ∀ path, P path → Q path)
    (hview : ∀ i, view' (view i) = view' i) : Allows T P view where
  write path value hpath hall :=
    h.write path value (hPQ path hpath) fun heq file hfile => hPQ file (hall heq file hfile)
  append path value hpath := h.append path value (hPQ path hpath)
  note change hchange := h.note change fun i => by rw [← hview, hchange, hview]

/-! ### Control requests -/

/-- A write to a file other than the switch for all events writes that file. -/
theorem writeTo (h : Allows T P view) {path : String} (value : String) (hpath : P path)
    (hne : path ≠ Control.allEvents) : Relates T (access (Facility.write path value)) :=
  h.write path value hpath fun hall => absurd hall hne

theorem eventSwitch (h : Allows T (Simulation.isSwitch ·) view) (n : EventName) (value : String) :
    Relates T (access (Facility.write (Control.eventSwitch n) value)) :=
  h.writeTo value (Simulation.isSwitch_eventSwitch n) (Simulation.eventSwitch_ne_allEvents n)

variable [IsTrans (Arbiter σ) T]

theorem clearFilters (h : Allows T (· ∈ Control.tracerFiles) view) :
    Relates T (access do Control.clearFunctionFilters; Control.clearGraphFilters) :=
  .access_bind (h.writeTo _ (by decide) (by decide)) fun _ => h.writeTo _ (by decide) (by decide)

variable [Std.Refl T]

theorem setSyscallFilter (h : Allows T (· ∈ Control.syscallFilters) view) (expression : String) :
    Relates T (access (Control.setSyscallFilter expression)) := by
  refine .access_forEach fun path hpath => h.writeTo _ hpath ?_
  rintro rfl
  revert hpath
  decide

/-! ### Parts of a setup -/

theorem installSyscallFilter
    (h : Allows T (· ∈ Control.syscallFilters) Installed.withoutSyscallFilter)
    (extra : SyscallFilter) : Relates T (installSyscallFilter extra).run := by
  refine .essential_get_bind fun a => ?_
  dsimp only
  split
  · exact .essential_bind (.essential_note (h.note _ fun _ => rfl)) fun _ => .essential_pure _
  · refine .essential_bind (.require (h.setSyscallFilter _)) fun _ => ?_
    exact .essential_bind (.essential_note (h.note _ fun _ => rfl)) fun _ => .essential_pure _

theorem restoreSyscallFilter
    (h : Allows T (· ∈ Control.syscallFilters) Installed.withoutSyscallFilter) :
    Relates T restoreSyscallFilter := by
  refine .get_bind fun a => .bind (h.setSyscallFilter _) fun result => ?_
  cases result with
  | ok => exact h.note _ fun _ => rfl
  | error => exact .pure _

omit [Std.Refl T] [IsTrans (Arbiter σ) T] in
theorem recallSyscallFilter
    (h : Allows T (· ∈ Control.syscallFilters) Installed.withoutSyscallFilter) :
    Relates T recallSyscallFilter :=
  .get_bind fun _ => h.note _ fun _ => rfl

theorem dropFunctionFilters (h : Allows T (· ∈ Control.tracerFiles) view) :
    Relates T dropFunctionFilters :=
  .bind h.clearFilters fun _ => .pure _

theorem addFunctionFilters (h : Allows T (· ∈ Control.tracerFiles) view) (r : Request) :
    Relates T (addFunctionFilters r).run := by
  refine .essential_bind (.require (.access_forEach fun _ _ => h.append _ _ ?_)) fun _ =>
    .require (.access_forEach fun _ _ => h.append _ _ ?_) <;> decide

theorem switchToFunctionGraph
    (h : Allows T (· ∈ Control.tracerFiles) Installed.withoutFunctionGraph) (r : Request) :
    Relates T (switchToFunctionGraph r).run := by
  refine .essential_bind (.require (h.writeTo _ (by decide) (by decide))) fun _ => ?_
  refine .essential_bind (.require (h.writeTo _ (by decide) (by decide))) fun _ => ?_
  refine .essential_bind (h.addFunctionFilters r) fun _ => ?_
  refine .essential_bind (.require (h.writeTo _ (by decide) (by decide))) fun _ => ?_
  exact .essential_note (h.note _ fun _ => rfl)

theorem engageFunctionGraph
    (h : Allows T (· ∈ Control.tracerFiles) Installed.withoutFunctionGraph) (r : Request) :
    Relates T (engageFunctionGraph r).run := by
  unfold Arbiter.engageFunctionGraph
  split
  · exact .essential_pure _
  refine .essential_get_bind fun a => ?_
  split
  · exact .essential_bind (h.addFunctionFilters r) fun _ => .essential_pure _
  · refine .essential_bind (.orUndo (h.switchToFunctionGraph r) h.dropFunctionFilters) fun _ => ?_
    exact .essential_pure _

theorem disengageFunctionGraph
    (h : Allows T (· ∈ Control.tracerFiles) Installed.withoutFunctionGraph) :
    Relates T disengageFunctionGraph := by
  refine .bind (h.note _ fun _ => rfl) fun _ => ?_
  exact .bind (h.writeTo _ (by decide) (by decide)) fun _ => h.dropFunctionFilters

theorem pinBuffer (h : Allows T (· = Control.bufferSize) Installed.withoutBuffer) (r : Request) :
    Relates T (pinBuffer r).run := by
  refine .essential_get_bind fun a => ?_
  split
  · refine .essential_bind (.require (h.writeTo _ rfl (by decide))) fun _ => ?_
    exact .essential_note (h.note _ fun _ => rfl)
  · exact .essential_pure _

theorem installTracerAndBuffer
    (h : Allows T (· ∈ Control.bufferSize :: Control.tracerFiles)
      fun i => i.withoutFunctionGraph.withoutBuffer) (r : Request) :
    Relates T (installTracerAndBuffer r).run := by
  have hbuffer : Allows T (· = Control.bufferSize) Installed.withoutBuffer :=
    h.mono (fun _ hpath => List.mem_cons.mpr (.inl hpath)) fun _ => rfl
  have htracer : Allows T (· ∈ Control.tracerFiles) Installed.withoutFunctionGraph :=
    h.mono (fun _ => List.mem_cons_of_mem _) fun _ => rfl
  refine .essential_bind (htracer.engageFunctionGraph r) fun engaged =>
    .orUndo (hbuffer.pinBuffer r) ?_
  cases engaged with
  | true => exact htracer.disengageFunctionGraph
  | false => exact .pure _

theorem installEssentials
    (h : Allows T (· ∈ essentialFiles)
      fun i => i.withoutSyscallFilter.withoutFunctionGraph.withoutBuffer)
    (r : Request) (filter : SyscallFilter) : Relates T (installEssentials r filter).run := by
  have hfilter : Allows T (· ∈ Control.syscallFilters) Installed.withoutSyscallFilter :=
    h.mono (fun _ => List.mem_append_left _) fun _ => rfl
  have hrest : Allows T (· ∈ Control.bufferSize :: Control.tracerFiles)
      fun i => i.withoutFunctionGraph.withoutBuffer :=
    h.mono (fun _ => List.mem_append_right _) fun _ => rfl
  refine .essential_bind
    (.orUndo (hfilter.installSyscallFilter filter) hfilter.restoreSyscallFilter) fun written =>
    .orUndo (hrest.installTracerAndBuffer r) ?_
  cases written with
  | true => exact hfilter.restoreSyscallFilter
  | false => exact hfilter.recallSyscallFilter

theorem startFresh
    (h : Allows T (fun path => Simulation.isSwitch path ∨ path = Control.trace)
      Installed.withoutEvents) :
    Relates T startFresh := by
  have htrace : Relates T (access Control.clearTrace) := h.writeTo _ (.inr rfl) (by decide)
  refine .get_bind fun a => ?_
  split
  · refine .bind (h.write _ _ (.inl (by decide)) fun _ _ => .inl) fun result => ?_
    cases result with
    | ok => exact .bind (h.note _ fun _ => rfl) fun _ => .bind htrace fun _ => .pure _
    | error => exact .bind htrace fun _ => .pure _
  · exact .pure _

theorem selectClock (h : Allows T (· = Control.traceClock) Installed.withoutClock) (r : Request) :
    Relates T (selectClock r) := by
  refine .get_bind fun a => ?_
  split
  · dsimp only
    split
    · refine .bind (h.writeTo _ rfl (by decide)) fun result => ?_
      cases result <;> exact .bind (.pure _) fun _ => h.note _ fun _ => rfl
    · exact .bind (.pure _) fun _ => h.note _ fun _ => rfl
  · exact .pure _

theorem enableEvent (h : Allows T (Simulation.isSwitch ·) Installed.withoutEvents) (e : Event) :
    Relates T (enableEvent e) := by
  refine .get_bind fun a => ?_
  split
  · exact .pure _
  split
  · exact .bind (h.note _ fun _ => rfl) fun _ => .pure _
  · refine .bind (h.eventSwitch _ _) fun result => ?_
    cases result with
    | ok => exact .bind (h.note _ fun _ => rfl) fun _ => .pure _
    | error => exact .pure _

theorem enableEvents (h : Allows T (Simulation.isSwitch ·) Installed.withoutEvents)
    (events : List Event) : Relates T (enableEvents events) := by
  induction events with
  | nil => exact .pure _
  | cons e events ih => exact .bind (h.enableEvent e) fun _ => .bind ih fun _ => .pure _

/-! ### Parts of a removal -/

theorem shrinkSyscallFilter
    (h : Allows T (· ∈ Control.syscallFilters) Installed.withoutSyscallFilter) :
    Relates T shrinkSyscallFilter :=
  .bind (h.installSyscallFilter .none) fun _ => .pure _

theorem disableEvent (h : Allows T (Simulation.isSwitch ·) Installed.withoutEvents) (id : EventId) :
    Relates T (disableEvent id) := by
  refine .get_bind fun a => ?_
  split
  · exact h.note _ fun _ => rfl
  split
  · exact h.note _ fun _ => rfl
  · refine .bind (h.eventSwitch _ _) fun result => ?_
    cases result with
    | ok => exact h.note _ fun _ => rfl
    | error => exact .pure _

theorem disableEvents (h : Allows T (Simulation.isSwitch ·) Installed.withoutEvents)
    (ids : List EventId) : Relates T (disableEvents ids) := by
  induction ids with
  | nil => exact .pure _
  | cons id ids ih => exact .bind (h.disableEvent id) fun _ => ih

theorem shrinkEvents (h : Allows T (Simulation.isSwitch ·) Installed.withoutEvents) :
    Relates T shrinkEvents :=
  .get_bind fun _ => h.disableEvents _

/-- Apart from the sessions that are recording, stopping one changes at most whether tracing is on. -/
theorem deactivate (h : Allows T (· = Control.tracingOn) id) (id : SessionId) (a : Arbiter σ) :
    T { a with active := ((deactivate id).run a).2.active } ((deactivate id).run a).2 := by
  have hstop : Relates T (do let _ ← access (σ := σ) (Control.setTracingOn false)) :=
    .bind (h.writeTo _ rfl (by decide)) fun _ => .pure _
  have hrefl (b : Arbiter σ) : T b b := Std.Refl.refl b
  unfold Arbiter.deactivate
  rw [state_get_bind]
  split
  · rw [state_bind]
    split
    · exact hstop { a with active := a.active.erase id }
    · exact hrefl { a with active := a.active.erase id }
  · exact hrefl a

/-! ### Other operations -/

omit [IsTrans (Arbiter σ) T] in
theorem activate (h : Allows T (· = Control.tracingOn) id) (id : SessionId) (a : Arbiter σ) :
    T { a with active := ((activate id).run a).2.active } ((activate id).run a).2 := by
  have hstart : Relates T (access (σ := σ) (Control.setTracingOn true)) := h.writeTo _ rfl (by decide)
  have hrefl (b : Arbiter σ) : T b b := Std.Refl.refl b
  unfold Arbiter.activate
  rw [state_get_bind]
  split
  · exact hrefl a
  dsimp only
  split
  · exact hrefl { a with active := a.active.insert id }
  -- Who is recording does not matter to the write, so it may as well come after the change.
  · have hjoined := hstart { a with active := a.active.insert id }
    have hrefused := hstart a
    rw [access_run] at hjoined hrefused
    rw [state_bind, access_run]
    match hrun : (Control.setTracingOn true : Access σ Unit).run.run a.facility with
    | (.ok (), s) =>
      rw [hrun] at hjoined
      exact hjoined
    | (.error e, s) =>
      rw [hrun] at hrefused
      exact hrefused

theorem resetTracer (h : Allows T (· ∈ Control.tracerFiles) Installed.withoutFunctionGraph) :
    Relates T resetTracer := by
  refine .get_bind fun a => ?_
  split
  · exact .pure _
  refine .bind (h.writeTo _ (by decide) (by decide)) fun result => ?_
  cases result with
  | error => exact .pure _
  | ok =>
    refine .bind (h.note _ fun _ => rfl) fun _ => .bind h.clearFilters fun result => ?_
    cases result <;> exact .pure _

end Allows

/-! ### Annotations -/

section Annotations

variable [Std.Refl T] [IsTrans (Arbiter σ) T]

theorem Relates.joinAnnotations
    (hstart : ∀ apps categories, Relates T (access (Facility.startAnnotations apps categories)))
    (hnote : ∀ change : Installed → Installed,
      (∀ i, (change i).withoutAnnotations = i.withoutAnnotations) → Relates T (modify (note change)))
    (r : Request) : Relates T (joinAnnotations r) := by
  refine .get_bind fun a => ?_
  split
  · exact .pure _
  split
  · exact .pure _
  refine .get_bind fun a => ?_
  dsimp only
  split
  · exact .pure _
  refine .bind (hstart _ _) fun result => ?_
  cases result with
  | ok => exact .bind (hnote _ fun _ => rfl) fun _ => .pure _
  | error => exact .pure _

theorem Relates.shrinkAnnotations
    (hstart : ∀ apps categories, Relates T (access (Facility.startAnnotations apps categories)))
    (hstop : Relates T (access Facility.stopAnnotations))
    (hnote : ∀ change : Installed → Installed,
      (∀ i, (change i).withoutAnnotations = i.withoutAnnotations) → Relates T (modify (note change))) :
    Relates T shrinkAnnotations := by
  refine .get_bind fun a => ?_
  dsimp only
  split
  · split
    · exact .bind hstop fun _ => hnote _ fun _ => rfl
    · refine .bind (hstart _ _) fun result => ?_
      cases result with
      | ok => exact hnote _ fun _ => rfl
      | error => exact .pure _
  · exact .pure _

end Annotations

end Arbiter

end TraceArbiter
