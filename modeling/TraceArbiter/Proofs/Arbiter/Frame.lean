import TraceArbiter.Arbiter.Activation
import TraceArbiter.Arbiter.Removal
import TraceArbiter.Arbiter.TracerReset
import TraceArbiter.Proofs.Arbiter.Relates
import TraceArbiter.Proofs.Facility.Writes

/-!
# What a step leaves alone

Every step of the arbiter is bounded by the files it may write and by the beliefs it may change. A
belief is named by what is left when it is erased: a step that keeps `Installed.withoutClock` changes
the clock at most. Sessions, ids and everything the arbiter was given stay as they are in every
bounded step, so registering, activating and removing are not bounded as a whole, only their parts.

Most invariants do not look at who is recording. Such an invariant is carried along a frame that starts
from `{ a with active }`, whatever `active` is: for a bounded step that is `a` itself, and for an
activation it is `a` with the new recorders.
-/

namespace TraceArbiter

open Std

namespace Arbiter

/-- The second state comes from the first by writes to files that `P` allows and by changes of
beliefs that `view` does not show. -/
structure Frame (P : String → Prop) (view : Installed → Installed) (a a' : Arbiter Simulation) :
    Prop where
  facility : a.facility.WritesOnly P a'.facility
  installed : view a'.installed = view a.installed
  catalog : a'.catalog = a.catalog
  settings : a'.settings = a.settings
  lastId : a'.lastId = a.lastId
  sessions : a'.sessions = a.sessions
  active : a'.active = a.active

namespace Frame

variable {P Q : String → Prop} {view view' : Installed → Installed} {a a' a'' : Arbiter Simulation}

theorem refl (P : String → Prop) (view : Installed → Installed) (a : Arbiter Simulation) :
    Frame P view a a :=
  ⟨.refl P a.facility, rfl, rfl, rfl, rfl, rfl, rfl⟩

theorem trans (h : Frame P view a a') (h' : Frame P view a' a'') : Frame P view a a'' where
  facility := h.facility.trans h'.facility
  installed := h'.installed.trans h.installed
  catalog := h'.catalog.trans h.catalog
  settings := h'.settings.trans h.settings
  lastId := h'.lastId.trans h.lastId
  sessions := h'.sessions.trans h.sessions
  active := h'.active.trans h.active

theorem mono (h : Frame P view a a') (hPQ : ∀ path, P path → Q path)
    (hview : ∀ i, view' (view i) = view' i) : Frame Q view' a a' where
  facility := h.facility.mono hPQ
  installed := by rw [← hview a'.installed, h.installed, hview]
  catalog := h.catalog
  settings := h.settings
  lastId := h.lastId
  sessions := h.sessions
  active := h.active

theorem configs (h : Frame P view a a') : a'.configs = a.configs := by
  unfold Arbiter.configs
  rw [h.sessions]

/-- What the view shows of the beliefs has not changed. -/
theorem belief {β : Type} (h : Frame P view a a') (f : Installed → β)
    (hf : ∀ i, f (view i) = f i) : f a'.installed = f a.installed := by
  rw [← hf, h.installed, hf]

instance : Std.Refl (Frame P view) :=
  ⟨refl P view⟩

instance : IsTrans (Arbiter Simulation) (Frame P view) :=
  ⟨fun _ _ _ => trans⟩

end Frame

/-- Running the step stays within the frame, wherever it starts. -/
def Framed {α : Type} (P : String → Prop) (view : Installed → Installed) (m : ArbiterM Simulation α) :
    Prop :=
  ∀ a, Frame P view a (m.run a).2

namespace Framed

variable {α : Type} {P Q : String → Prop} {view view' : Installed → Installed}

theorem of_run {m : ArbiterM Simulation α} {a a' : Arbiter Simulation} {x : α} (hm : Framed P view m)
    (h : m.run a = (x, a')) : Frame P view a a' :=
  Relates.of_run hm h

theorem pure (x : α) : Framed P view (Pure.pure x) :=
  Relates.pure x

theorem mono {m : ArbiterM Simulation α} (hm : Framed P view m) (hPQ : ∀ path, P path → Q path)
    (hview : ∀ i, view' (view i) = view' i) : Framed Q view' m :=
  fun a => (hm a).mono hPQ hview

theorem note {change : Installed → Installed} (h : ∀ i, view (change i) = view i) :
    Framed P view (modify (note change)) :=
  fun a => { Frame.refl P view a with installed := h a.installed }

theorem access {m : Access Simulation α} (hm : Access.WritesOnly P m) :
    Framed P view (access m) :=
  fun a => { Frame.refl P view a with facility := hm a.facility }

end Framed

end Arbiter

end TraceArbiter
