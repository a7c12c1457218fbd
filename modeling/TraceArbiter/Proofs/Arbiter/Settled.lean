import TraceArbiter.Proofs.Arbiter.FailedSetup

/-!
# What the first session settles

The clock and the size of the buffer are for all sessions alike, and so they are chosen with the first
session and never again. A setup that fails has chosen nothing.
-/

namespace TraceArbiter

open Std

namespace Arbiter

variable {a a' : Arbiter Simulation} {r : Request}

structure Settled (a : Arbiter Simulation) : Prop where
  clock : a.installed.clock.isSome
  buffer : a.installed.bufferPages ≠ 0

theorem Settled.of_frame {P : String → Prop} {view : Installed → Installed}
    {active : ExtTreeSet SessionId} (ha : a.Settled) (h : Frame P view { a with active } a')
    (hclock : ∀ i, (view i).clock = i.clock) (hbuffer : ∀ i, (view i).bufferPages = i.bufferPages) :
    a'.Settled := by
  constructor
  · rw [h.belief Installed.clock hclock]
    exact ha.clock
  · rw [h.belief Installed.bufferPages hbuffer]
    exact ha.buffer

theorem clock_selectClock (r : Request) (a : Arbiter Simulation) :
    ((selectClock r).run a).2.installed.clock.isSome := by
  unfold selectClock
  rw [state_get_bind]
  split
  · dsimp only
    split
    · rw [state_bind]
      split <;> rfl
    · rfl
  · next hchosen =>
    rw [Option.isNone_iff_eq_none, ← ne_eq, Option.ne_none_iff_isSome] at hchosen
    exact hchosen

theorem buffer_essentials {filter : SyscallFilter}
    (h : (installEssentials r filter).run.run a = (.ok (), a')) :
    a'.installed.bufferPages ≠ 0 := by
  cases essentials_case h with
  | installed _ _ _ _ hrest =>
    obtain ⟨engaged, a₁, -, hpin⟩ := installTracerAndBuffer_made hrest
    exact pinBuffer_pinned hpin

theorem settled_completeSetup (r : Request) (id : SessionId) (plan : Plan)
    (hbuffer : a.installed.bufferPages ≠ 0) : ((completeSetup r id plan).run a).2.Settled := by
  constructor
  · rw [completeSetup_run]
    dsimp only
    rw [(framed_joinAnnotations r _).belief Installed.clock fun _ => rfl,
      (framed_enableEvents plan.events _).belief Installed.clock fun _ => rfl]
    exact clock_selectClock r _
  · rw [(frame_completeSetup r id plan a).belief Installed.bufferPages fun _ => rfl]
    exact hbuffer

/-- While there is a session, the clock and the buffer are settled. -/
def SettledBySessions (a : Arbiter Simulation) : Prop :=
  ¬a.sessions.isEmpty → a.Settled

theorem SettledBySessions.of_frame {P : String → Prop} {view : Installed → Installed}
    {active : ExtTreeSet SessionId} (ha : a.SettledBySessions) (h : Frame P view { a with active } a')
    (hclock : ∀ i, (view i).clock = i.clock) (hbuffer : ∀ i, (view i).bufferPages = i.bufferPages) :
    a'.SettledBySessions := by
  intro hsessions
  rw [h.sessions] at hsessions
  exact (ha hsessions).of_frame h hclock hbuffer

theorem SettledBySessions.setup (ha : a.SettledBySessions) (r : Request) (report : SetupReport) :
    ((setup r report).run a).2.SettledBySessions := by
  match hrun : (Arbiter.setup r report).run a with
  | ((id, report'), a') =>
    cases setup_case hrun with
    | refused => exact ha
    | undone _ _ _ _ _ hundone =>
      exact ha.of_frame (frame_essentials_refused hundone) (fun _ => rfl) fun _ => rfl
    | completed _ _ a₁ _ _ hdone =>
      exact fun _ => settled_completeSetup r id (r.plan a.catalog) (buffer_essentials hdone)

theorem SettledBySessions.remove (ha : a.SettledBySessions) (id : SessionId) :
    ((remove id).run a).2.SettledBySessions := by
  have hremoved : SettledBySessions { a with sessions := ((Arbiter.remove id).run a).2.sessions } := by
    intro hleft
    have hsessions : ¬a.sessions.isEmpty := by
      intro hempty
      apply hleft
      dsimp only
      rw [sessions_remove, ExtTreeMap.isEmpty_iff.mp hempty]
      split <;> simp
    exact ⟨(ha hsessions).clock, (ha hsessions).buffer⟩
  exact hremoved.of_frame (frame_remove id a) (fun _ => rfl) fun _ => rfl

theorem SettledBySessions.apply (ha : a.SettledBySessions) (step : Step) :
    (step.apply a).SettledBySessions := by
  cases step with
  | setup r report => exact ha.setup r report
  | activate id => exact ha.of_frame (frame_activate id a) (fun _ => rfl) fun _ => rfl
  | remove id => exact ha.remove id
  | resetTracer => exact ha.of_frame (framed_resetTracer a) (fun _ => rfl) fun _ => rfl
  | rig rigging => exact fun hsessions => ⟨(ha hsessions).clock, (ha hsessions).buffer⟩
  | poke path value => exact fun hsessions => ⟨(ha hsessions).clock, (ha hsessions).buffer⟩

end Arbiter

end TraceArbiter
