import TraceArbiter.Proofs.Arbiter.Frame
import TraceArbiter.Proofs.Arbiter.Parts

/-!
# Bounds on the parts of the operations

The frame of each part of a setup, a removal and a tracer reset. A part that matters to a property is
looked at on its own; of the others these bounds are all that is needed.
-/

namespace TraceArbiter

open Std

namespace Access.WritesOnly

theorem startAnnotations (apps categories : List String) :
    WritesOnly (fun _ => False) (Facility.startAnnotations apps categories) := by
  intro s
  change s.WritesOnly _ ((Simulation.startAnnotations apps categories).run.run s).2
  unfold Simulation.startAnnotations
  rw [run_get_bind]
  cases s.annotationFailure with
  | some reason => exact .refl _ s
  | none => exact ⟨fun _ _ => rfl, ⟨[], (List.append_nil s.log).symm, by simp⟩, rfl, rfl⟩

theorem stopAnnotations : WritesOnly (fun _ => False) (Facility.stopAnnotations) :=
  fun s => ⟨fun _ _ => rfl, ⟨[], (List.append_nil s.log).symm, by simp⟩, rfl, rfl⟩

end Access.WritesOnly

namespace Arbiter

theorem Frame.allows {P : String → Prop} {view : Installed → Installed} :
    Allows (Frame P view) P view where
  write _ value hpath hall := Framed.access (.write value hpath hall)
  append _ value hpath := Framed.access (.append value hpath)
  note _ hchange := Framed.note hchange

/-! ### Parts of a setup -/

theorem framed_installSyscallFilter (extra : SyscallFilter) :
    Framed (· ∈ Control.syscallFilters) Installed.withoutSyscallFilter
      (installSyscallFilter extra).run :=
  Frame.allows.installSyscallFilter extra

theorem framed_restoreSyscallFilter :
    Framed (· ∈ Control.syscallFilters) Installed.withoutSyscallFilter restoreSyscallFilter :=
  Frame.allows.restoreSyscallFilter

theorem framed_recallSyscallFilter :
    Framed (· ∈ Control.syscallFilters) Installed.withoutSyscallFilter recallSyscallFilter :=
  Frame.allows.recallSyscallFilter

theorem framed_dropFunctionFilters : Framed (· ∈ Control.tracerFiles) id dropFunctionFilters :=
  Frame.allows.dropFunctionFilters

theorem framed_engageFunctionGraph (r : Request) :
    Framed (· ∈ Control.tracerFiles) Installed.withoutFunctionGraph (engageFunctionGraph r).run :=
  Frame.allows.engageFunctionGraph r

theorem framed_disengageFunctionGraph :
    Framed (· ∈ Control.tracerFiles) Installed.withoutFunctionGraph disengageFunctionGraph :=
  Frame.allows.disengageFunctionGraph

theorem framed_pinBuffer (r : Request) :
    Framed (· = Control.bufferSize) Installed.withoutBuffer (pinBuffer r).run :=
  Frame.allows.pinBuffer r

theorem framed_installTracerAndBuffer (r : Request) :
    Framed (· ∈ Control.bufferSize :: Control.tracerFiles)
      (fun i => i.withoutFunctionGraph.withoutBuffer) (installTracerAndBuffer r).run :=
  Frame.allows.installTracerAndBuffer r

theorem isSwitch_essential : ∀ path ∈ essentialFiles, Simulation.isSwitch path = false := by
  decide

theorem framed_installEssentials (r : Request) (filter : SyscallFilter) :
    Framed (· ∈ essentialFiles) (fun i => i.withoutSyscallFilter.withoutFunctionGraph.withoutBuffer)
      (installEssentials r filter).run :=
  Frame.allows.installEssentials r filter

theorem framed_startFresh :
    Framed (fun path => Simulation.isSwitch path ∨ path = Control.trace) Installed.withoutEvents
      startFresh :=
  Frame.allows.startFresh

theorem framed_selectClock (r : Request) :
    Framed (· = Control.traceClock) Installed.withoutClock (selectClock r) :=
  Frame.allows.selectClock r

theorem framed_enableEvents (events : List Event) :
    Framed (Simulation.isSwitch ·) Installed.withoutEvents (enableEvents events) :=
  Frame.allows.enableEvents events

theorem framed_joinAnnotations (r : Request) :
    Framed (fun _ => False) Installed.withoutAnnotations (joinAnnotations r) :=
  Relates.joinAnnotations (fun _ _ => Framed.access (.startAnnotations _ _))
    (fun _ hchange => Framed.note hchange) r

/-! ### Parts of a removal -/

theorem framed_shrinkAnnotations :
    Framed (fun _ => False) Installed.withoutAnnotations shrinkAnnotations :=
  Relates.shrinkAnnotations (fun _ _ => Framed.access (.startAnnotations _ _))
    (Framed.access .stopAnnotations) fun _ hchange => Framed.note hchange

theorem framed_shrinkSyscallFilter :
    Framed (· ∈ Control.syscallFilters) Installed.withoutSyscallFilter shrinkSyscallFilter :=
  Frame.allows.shrinkSyscallFilter

theorem framed_disableEvent (id : EventId) :
    Framed (Simulation.isSwitch ·) Installed.withoutEvents (disableEvent id) :=
  Frame.allows.disableEvent id

theorem framed_disableEvents (ids : List EventId) :
    Framed (Simulation.isSwitch ·) Installed.withoutEvents (disableEvents ids) :=
  Frame.allows.disableEvents ids

theorem framed_shrinkEvents : Framed (Simulation.isSwitch ·) Installed.withoutEvents shrinkEvents :=
  Frame.allows.shrinkEvents

theorem frame_deactivate (id : SessionId) (a : Arbiter Simulation) :
    Frame (· = Control.tracingOn) (fun i => i) { a with active := ((deactivate id).run a).2.active }
      ((deactivate id).run a).2 :=
  Frame.allows.deactivate id a

/-! ### Other operations -/

theorem frame_activate (id : SessionId) (a : Arbiter Simulation) :
    Frame (· = Control.tracingOn) (fun i => i) { a with active := ((activate id).run a).2.active }
      ((activate id).run a).2 :=
  Frame.allows.activate id a

theorem framed_resetTracer :
    Framed (· ∈ Control.tracerFiles) Installed.withoutFunctionGraph resetTracer :=
  Frame.allows.resetTracer

end Arbiter

end TraceArbiter
