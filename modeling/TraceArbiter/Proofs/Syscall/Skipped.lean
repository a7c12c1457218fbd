import TraceArbiter.Proofs.Run
import TraceArbiter.Proofs.Syscall.Writes

/-!
# Filter writes that are done without

The arbiter does without a write when the filter it wants restricts to the same calls as the one it
takes to be installed. An expression says which calls a filter restricts to, each once and in order, and
whether it restricts to any at all, so filters that restrict to different calls are written differently.
A write is therefore done without exactly if it would leave the text in the files as it is.
-/

namespace TraceArbiter

open Std

theorem Simulation.FiltersHold.iff_eq {s : Simulation} {expression expression' : String}
    (h : s.FiltersHold expression) : s.FiltersHold expression' ↔ expression' = expression := by
  constructor
  · intro h'
    have hmem : entryFilter ∈ Control.syscallFilters := .head _
    exact (h' _ hmem).symm.trans (h _ hmem)
  · rintro rfl
    exact h

namespace Arbiter

/-- Whether a write is done without is decided by what the filters restrict to. -/
theorem installSyscallFilter_skips_iff (extra : SyscallFilter) (a : Arbiter Simulation) :
    ((installSyscallFilter extra).run.run a).1 = .ok false ↔
      ((unionOfSyscalls a.configs).union extra).restriction =
        a.installed.syscallFilter.restriction := by
  rw [installSyscallFilter_run]
  split
  · next hsame => exact iff_of_true rfl hsame
  · next hdifferent =>
    refine iff_of_false ?_ hdifferent
    split <;> exact nofun

theorem facility_installSyscallFilter_skipped {extra : SyscallFilter} {a : Arbiter Simulation}
    (h : ((installSyscallFilter extra).run.run a).1 = .ok false) :
    ((installSyscallFilter extra).run.run a).2.facility = a.facility := by
  rw [installSyscallFilter_run, if_pos ((installSyscallFilter_skips_iff extra a).mp h)]
  rfl

end Arbiter

namespace SyscallFilter

open Arbiter

/-- The calls that a filter restricts to can be read off its expression. So filters are written alike
exactly if they restrict to the same calls, and the arbiter does without exactly those writes for which
the expression in the files, as far as it is the one of the installed filter, is right already. -/
theorem expression_faithful (f g : SyscallFilter) (extra : SyscallFilter) (a : Arbiter Simulation) :
    let wanted := (unionOfSyscalls a.configs).union extra
    let installed := a.installed.syscallFilter
    let done := (installSyscallFilter extra).run.run a
    (f.expression = g.expression ↔ f.restriction = g.restriction) ∧
      (∀ ids, f.restriction = some ids → ∃ calls : List SyscallId,
        clausesOf f.expression = calls.map some ∧ calls.Pairwise (· < ·) ∧
          ∀ call, call ∈ calls ↔ call ∈ ids) ∧
      (f.expression = "0" ↔ f.restriction = Option.none) ∧
      (done.1 = .ok false ↔ wanted.expression = installed.expression) ∧
      (done.1 = .ok false → done.2.facility = a.facility) ∧
      (a.facility.FiltersHold installed.expression →
        (done.1 = .ok false ↔ a.facility.FiltersHold wanted.expression)) := by
  intro wanted installed done
  have hskips : done.1 = .ok false ↔ wanted.expression = installed.expression :=
    (installSyscallFilter_skips_iff extra a).trans expression_eq_iff.symm
  refine ⟨expression_eq_iff, fun ids hids => ?_, expression_eq_clear_iff, hskips,
    facility_installSyscallFilter_skipped, fun hholds => hskips.trans hholds.iff_eq.symm⟩
  refine ⟨ids.toList, clausesOf_expression hids, ?_, fun call => ExtTreeSet.mem_toList⟩
  exact ExtTreeSet.ordered_toList.imp compare_eq_lt.mp

/-- Two sessions record a call each. -/
def twoCalls : Arbiter Simulation :=
  (fresh smallCatalog {}).after [recordCall "1", recordCall "0"]

def firstCall : SyscallFilter :=
  explicit (.ofList [(0 : SyscallId)])

def bothCalls : ExtTreeSet SyscallId :=
  .ofList [(1 : SyscallId), 0]

/-- A third session that records one of the calls again takes no write. -/
theorem expression_faithful_twoCalls :
    twoCalls.facility.FiltersHold "id == 0 || id == 1" ∧
      ((installSyscallFilter firstCall).run.run twoCalls).1 = .ok false ∧
      ∃ calls : List SyscallId, clausesOf "id == 0 || id == 1" = calls.map some ∧
        calls.Pairwise (· < ·) ∧ ∀ call, call ∈ calls ↔ call ∈ bothCalls := by
  have hexpressions : (explicit bothCalls).expression = "id == 0 || id == 1" ∧
      twoCalls.installed.syscallFilter.expression = "id == 0 || id == 1" ∧
      ((unionOfSyscalls twoCalls.configs).union firstCall).expression = "id == 0 || id == 1" := by
    decide +kernel
  have hfiles : ∀ path ∈ Control.syscallFilters,
      (twoCalls.facility.value? path).getD clearExpression = "id == 0 || id == 1" := by
    decide +kernel
  have hrestriction : (explicit bothCalls).restriction = some bothCalls := by
    decide +kernel
  obtain ⟨hboth, hinstalled, hwanted⟩ := hexpressions
  obtain ⟨-, hclauses, -, -, -, hskips⟩ := expression_faithful (explicit bothCalls) .none firstCall
    twoCalls
  rw [hinstalled, hwanted] at hskips
  rw [hboth] at hclauses
  exact ⟨hfiles, (hskips hfiles).mpr hfiles, hclauses bothCalls hrestriction⟩

end SyscallFilter

end TraceArbiter
