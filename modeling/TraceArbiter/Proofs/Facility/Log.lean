import TraceArbiter.Proofs.Facility.Switches
import TraceArbiter.Proofs.Facility.Writes

/-!
# The log of writes

A simulated facility logs every write that it takes, with the value. So a bound on what was added to
the log is a bound on files and values together.
-/

namespace TraceArbiter

open Std

namespace Simulation

variable {P Q : String → String → Prop} {s s' s'' : Simulation} {path file content value : String}

/-! ### Entries -/

/-- The second facility has logged, on top of what the first had, only writes that `P` allows. -/
def Logs (P : String → String → Prop) (s s' : Simulation) : Prop :=
  ∃ entries, s'.log = s.log ++ entries ∧ ∀ path value, (path, value) ∈ entries → P path value

namespace Logs

theorem refl (P : String → String → Prop) (s : Simulation) : s.Logs P s :=
  ⟨[], by simp⟩

theorem trans (h : s.Logs P s') (h' : s'.Logs P s'') : s.Logs P s'' := by
  obtain ⟨entries, hlog, hP⟩ := h
  obtain ⟨entries', hlog', hP'⟩ := h'
  refine ⟨entries ++ entries', by rw [hlog', hlog, List.append_assoc], ?_⟩
  intro path value hentry
  exact (List.mem_append.mp hentry).elim (hP path value) (hP' path value)

theorem mono (h : s.Logs P s') (hPQ : ∀ path value, P path value → Q path value) : s.Logs Q s' := by
  obtain ⟨entries, hlog, hP⟩ := h
  exact ⟨entries, hlog, fun path value hentry => hPQ path value (hP path value hentry)⟩

theorem written (content : String) (h : P path value) : s.Logs P (s.written path content value) := by
  refine ⟨[(path, value)], rfl, fun path' value' hentry => ?_⟩
  cases List.mem_singleton.mp hentry
  exact h

end Logs

theorem WritesOnly.logs {P : String → Prop} (h : s.WritesOnly P s') :
    s.Logs (fun path _ => P path) s' := by
  obtain ⟨entries, hlog, hP⟩ := h.log_eq
  exact ⟨entries, hlog, fun path value hentry => hP (path, value) hentry⟩

/-! ### The writes to one file -/

theorem writesTo_written :
    (s.written path content value).writesTo file =
      s.writesTo file ++ if path = file then [value] else [] := by
  change ((s.log ++ [(path, value)]).filter _).map _ = _
  rw [List.filter_append, List.map_append, List.filter_singleton]
  by_cases h : path = file <;> simp [h, writesTo]

theorem WritesOnly.writesTo_eq {P : String → Prop} (h : s.WritesOnly P s') (hfile : ¬P file) :
    s'.writesTo file = s.writesTo file := by
  obtain ⟨entries, hlog, hP⟩ := h.log_eq
  have hnone : entries.filter (·.1 = file) = [] := by
    rw [List.filter_eq_nil_iff]
    intro entry hentry hpath
    rw [decide_eq_true_eq] at hpath
    exact hfile (hpath ▸ hP entry hentry)
  unfold writesTo
  rw [hlog, List.filter_append, hnone, List.append_nil]

end Simulation

/-! ### Accesses -/

/-- Whether it fails or not, the access adds to the log only writes that `P` allows. -/
def Access.Logs {α : Type} (P : String → String → Prop) (m : Access Simulation α) : Prop :=
  ∀ s : Simulation, s.Logs P (m.run.run s).2

namespace Access.Logs

variable {α β : Type} {P : String → String → Prop}

theorem pure (x : α) : Logs P (Pure.pure x : Access Simulation α) :=
  fun s => .refl P s

theorem bind {m : Access Simulation α} {f : α → Access Simulation β} (hm : Logs P m)
    (hf : ∀ x, Logs P (f x)) : Logs P (m >>= f) := by
  intro s
  have hs := hm s
  rw [run_bind]
  match hrun : m.run.run s with
  | (.ok x, s') =>
    rw [hrun] at hs
    exact hs.trans (hf x s')
  | (.error e, s') =>
    rw [hrun] at hs
    exact hs

theorem write {path value : String} (hall : path ≠ Control.allEvents)
    (hclock : path ≠ Control.traceClock) (h : P path value) : Logs P (Facility.write path value) := by
  intro s
  rw [s.write_run value hall hclock]
  split
  · exact .refl P s
  · exact .written value h

theorem forEach {access : α → Access Simulation Unit} {items : List α}
    (h : ∀ x ∈ items, Logs P (access x)) : Logs P (Control.forEach access items) := by
  induction items with
  | nil => exact .pure ()
  | cons x items ih => exact .bind (h x (.head _)) fun _ => ih fun y hy => h y (.tail _ hy)

theorem setSyscallFilter (expression : String) :
    Logs (fun path value => path ∈ Control.syscallFilters ∧ value = expression)
      (Control.setSyscallFilter expression) := by
  apply forEach
  intro path hpath
  have hall : path ≠ Control.allEvents := by
    rintro rfl
    exact absurd hpath (by decide)
  have hclock : path ≠ Control.traceClock := by
    rintro rfl
    exact absurd hpath (by decide)
  exact .write hall hclock ⟨hpath, rfl⟩

end Access.Logs

end TraceArbiter
