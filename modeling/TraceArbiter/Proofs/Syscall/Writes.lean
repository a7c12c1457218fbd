import TraceArbiter.Proofs.Arbiter.Bounds
import TraceArbiter.Proofs.Arbiter.Stages
import TraceArbiter.Proofs.Syscall.Expression

/-!
# Writes of the syscall filter

The filter is written twice, for entry and for exit, and either write may be refused. A write that is
refused leaves each file as it was or with the new text; writing another text over that is refused
too, and leaves each file as it was at first or with that text. So a filter that was refused during a
setup can be undone although undoing it is refused as well.
-/

namespace TraceArbiter

open Std

namespace Simulation

variable {s s' : Simulation} {expression : String}

/-- Both filter files hold the expression, where one that is not there counts as cleared. -/
def FiltersHold (s : Simulation) (expression : String) : Prop :=
  ∀ path ∈ Control.syscallFilters,
    (s.value? path).getD SyscallFilter.clearExpression = expression

/-- Each filter file of the second facility holds what it held in the first, or the expression. -/
def FiltersKeepOrHold (s s' : Simulation) (expression : String) : Prop :=
  ∀ path ∈ Control.syscallFilters,
    s'.value? path = s.value? path ∨ s'.value? path = some expression

def entryFilter : String :=
  "events/raw_syscalls/sys_enter/filter"

def exitFilter : String :=
  "events/raw_syscalls/sys_exit/filter"

theorem setSyscallFilter_run (s : Simulation) (expression : String) :
    (Control.setSyscallFilter expression : Access Simulation Unit).run.run s =
      if entryFilter ∈ s.failingWrites then (.error (.writeFailed entryFilter injected), s)
      else if exitFilter ∈ s.failingWrites then
        (.error (.writeFailed exitFilter injected), s.written entryFilter expression expression)
      else
        (.ok (), (s.written entryFilter expression expression).written exitFilter expression
          expression) := by
  change (Facility.write entryFilter expression >>= fun _ =>
    Facility.write exitFilter expression >>= fun _ => pure ()).run.run s = _
  have hentry : (Facility.write entryFilter expression : Access Simulation Unit).run.run s = _ :=
    s.write_run expression (by decide) (by decide)
  have hexit : (Facility.write exitFilter expression : Access Simulation Unit).run.run
      (s.written entryFilter expression expression) = _ :=
    write_run _ expression (by decide) (by decide)
  rw [failingWrites_written] at hexit
  by_cases hentryFails : entryFilter ∈ s.failingWrites
  · rw [if_pos hentryFails] at hentry ⊢
    exact run_bind_error hentry
  rw [if_neg hentryFails] at hentry ⊢
  rw [run_bind_ok hentry]
  by_cases hexitFails : exitFilter ∈ s.failingWrites
  · rw [if_pos hexitFails] at hexit ⊢
    exact run_bind_error hexit
  · rw [if_neg hexitFails] at hexit ⊢
    exact run_bind_ok hexit

/-- A write that is taken leaves the expression in both files, and would be taken again. -/
theorem setSyscallFilter_ok
    (h : (Control.setSyscallFilter expression : Access Simulation Unit).run.run s = (.ok (), s')) :
    s'.FiltersHold expression ∧ ∀ (again : String) (t : Simulation),
      t.failingWrites = s'.failingWrites → ∃ t',
        (Control.setSyscallFilter again : Access Simulation Unit).run.run t = (.ok (), t') := by
  rw [setSyscallFilter_run] at h
  split at h
  · cases h
  next hentry =>
  split at h
  · cases h
  next hexit =>
  cases h
  refine ⟨?_, fun again t ht => ?_⟩
  · intro path hpath
    obtain rfl | rfl := List.mem_pair.mp hpath
    · simp [entryFilter, exitFilter]
    · simp [exitFilter]
  · rw [failingWrites_written, failingWrites_written] at ht
    rw [setSyscallFilter_run, ht, if_neg hentry, if_neg hexit]
    exact ⟨_, rfl⟩

/-- A write that is refused would be refused again, and then each file is as it was at first or
holds the second expression. -/
theorem setSyscallFilter_error {e : FacilityError}
    (h : (Control.setSyscallFilter expression : Access Simulation Unit).run.run s = (.error e, s')) :
    s.FiltersKeepOrHold s' expression ∧ ∀ again : String, ∃ s'',
      (Control.setSyscallFilter again : Access Simulation Unit).run.run s' = (.error e, s'') ∧
        s.FiltersKeepOrHold s'' again := by
  rw [setSyscallFilter_run] at h
  split at h
  · next hentry =>
    cases h
    refine ⟨fun path _ => .inl rfl, fun again => ⟨_, ?_, fun path _ => .inl rfl⟩⟩
    rw [setSyscallFilter_run, if_pos hentry]
  next hentry =>
  split at h
  · next hexit =>
    cases h
    have hkeep : s.FiltersKeepOrHold (s.written entryFilter expression expression) expression := by
      intro path _
      rw [value?_written]
      split
      · exact .inr rfl
      · exact .inl rfl
    refine ⟨hkeep, fun again => ?_⟩
    rw [setSyscallFilter_run, failingWrites_written, if_neg hentry, if_pos hexit]
    refine ⟨_, rfl, fun path hpath => ?_⟩
    rw [value?_written, value?_written]
    split
    · exact .inr rfl
    · exact .inl rfl
  · cases h

theorem FiltersHold.of_keepOrHold (h : s.FiltersHold expression)
    (hkeep : s.FiltersKeepOrHold s' expression) : s'.FiltersHold expression := by
  intro path hpath
  obtain heq | heq := hkeep path hpath
  · rw [heq]
    exact h path hpath
  · rw [heq]
    rfl

theorem FiltersHold.of_writesOnly {P : String → Prop} (h : s.FiltersHold expression)
    (hwrites : s.WritesOnly P s') (hP : ∀ path ∈ Control.syscallFilters, ¬P path) :
    s'.FiltersHold expression := by
  intro path hpath
  rw [hwrites.value?_eq path (hP path hpath)]
  exact h path hpath

end Simulation

/-! ### By the arbiter -/

namespace Arbiter

theorem installSyscallFilter_run (extra : SyscallFilter) (a : Arbiter Simulation) :
    (installSyscallFilter extra).run.run a =
      if ((unionOfSyscalls a.configs).union extra).restriction =
          a.installed.syscallFilter.restriction then
        (.ok false, a.note fun i =>
          { i with syscallFilter := (unionOfSyscalls a.configs).union extra })
      else
        match (Control.setSyscallFilter ((unionOfSyscalls a.configs).union extra).expression :
            Access Simulation Unit).run.run a.facility with
        | (.ok (), facility) => (.ok true, { a with
          facility
          installed := { a.installed with
            syscallFilter := (unionOfSyscalls a.configs).union extra } })
        | (.error e, facility) => (.error (.facility e), { a with facility }) := by
  unfold installSyscallFilter
  rw [run_get_bind]
  dsimp only
  split
  · rfl
  · rw [run_bind, require_run]
    match (Control.setSyscallFilter ((unionOfSyscalls a.configs).union extra).expression :
        Access Simulation Unit).run.run a.facility with
    | (.ok (), facility) => rfl
    | (.error e, facility) => rfl

/-- Essentials that are installed leave the filter files alone if the union restricts to the same calls
as what is believed to be installed, and otherwise leave the union in both. -/
theorem filters_essentials_installed {a a' : Arbiter Simulation} {r : Request}
    {filter : SyscallFilter} (h : (installEssentials r filter).run.run a = (.ok (), a')) :
    if ((unionOfSyscalls a.configs).union filter).restriction =
        a.installed.syscallFilter.restriction then
      ∀ path ∈ Control.syscallFilters, a'.facility.value? path = a.facility.value? path
    else a'.facility.FiltersHold ((unionOfSyscalls a.configs).union filter).expression := by
  cases essentials_case h with
  | installed wrote a₁ _ hinstalled hrest =>
    have hframe := (framed_installTracerAndBuffer r).of_run hrest
    rw [installSyscallFilter_run] at hinstalled
    split at hinstalled
    · next hsame =>
      cases hinstalled
      rw [if_pos hsame]
      exact fun path hpath => hframe.facility.value?_eq path (by revert path; decide)
    · next hdifferent =>
      rw [if_neg hdifferent]
      split at hinstalled
      · next hwrite =>
        cases hinstalled
        obtain ⟨hholds, -⟩ := Simulation.setSyscallFilter_ok hwrite
        exact hholds.of_writesOnly hframe.facility (by decide)
      · cases hinstalled

theorem restoreSyscallFilter_run (a : Arbiter Simulation) :
    (restoreSyscallFilter.run a).2 =
      match (Control.setSyscallFilter (unionOfSyscalls a.configs).expression :
          Access Simulation Unit).run.run a.facility with
      | (.ok (), facility) => { a with
        facility
        installed := { a.installed with syscallFilter := unionOfSyscalls a.configs } }
      | (.error _, facility) => { a with facility } := by
  unfold restoreSyscallFilter
  rw [state_get_bind]
  dsimp only
  rw [state_bind, access_run]
  match (Control.setSyscallFilter (unionOfSyscalls a.configs).expression :
      Access Simulation Unit).run.run a.facility with
  | (.ok (), facility) => rfl
  | (.error e, facility) => rfl

theorem recallSyscallFilter_run (a : Arbiter Simulation) :
    (recallSyscallFilter.run a).2 =
      a.note fun i => { i with syscallFilter := unionOfSyscalls a.configs } := rfl

end Arbiter

end TraceArbiter
