import TraceArbiter.Proofs.Arbiter.Blame
import TraceArbiter.Proofs.Arbiter.FilesOnly
import TraceArbiter.Proofs.Run
import TraceArbiter.Proofs.Tracer.Undone

/-!
# Setups that give no session

What a failed setup leaves of the arbiter, in whatever state it finds it and the files. The checks
come first and write nothing. The essentials are taken up one after the other, and each of them
changes a belief only when its last write has been taken: so a setup that fails has changed at most
the filter on system calls, which it recalls, and the tracer, which it disengages again.
-/

namespace TraceArbiter

open Std

/-- The failures of the checks that a setup starts with. -/
def SetupFailure.isPreflight : SetupFailure → Bool
  | .tracingInUse | .tracingDisabledExternally | .tracerBusy _ | .idsExhausted => true
  | .facility (.readFailed path _) => path = Control.tracingOn || path = Control.currentTracer
  | .facility _ => false

namespace Arbiter

open Simulation

variable {a a' : Arbiter Simulation} {r : Request} {failure : SetupFailure}

/-! ### The filter on system calls -/

/-- Undoing a filter that was installed recalls what the sessions record, whatever happened since to
other files. -/
theorem syscallFilter_undoFilter {extra : SyscallFilter} {wrote : Bool} {a₁ a₂ : Arbiter Simulation}
    {P : String → Prop} {view : Installed → Installed}
    (h : (installSyscallFilter extra).run.run a = (.ok wrote, a₁)) (hframe : Frame P view a₁ a₂) :
    ((undoFilter wrote).run a₂).2.installed.syscallFilter = unionOfSyscalls a.configs := by
  have hconfigs : a₂.configs = a.configs := by
    rw [hframe.configs, ((framed_installSyscallFilter extra).of_run h).configs]
  rw [← hconfigs]
  cases wrote with
  | false => rfl
  | true =>
    rw [installSyscallFilter_run] at h
    split at h
    · cases h
    split at h
    · next hwrite =>
      cases h
      -- The files took this setup's filter, so they take the old one again.
      obtain ⟨-, hagain⟩ := setSyscallFilter_ok hwrite
      obtain ⟨s, hrestore⟩ := hagain (unionOfSyscalls a₂.configs).expression a₂.facility
        hframe.facility.failingWrites_eq
      change (restoreSyscallFilter.run a₂).2.installed.syscallFilter = _
      rw [restoreSyscallFilter_run, hrestore]
    · cases h

/-! ### The tracer and the buffer -/

theorem engageFunctionGraph_refused (h : (engageFunctionGraph r).run.run a = (.error failure, a')) :
    a'.installed = a.installed := by
  cases engage_case h with
  | filtersRefused => rfl
  | rootsRefused => rfl
  | switchRefused _ _ _ _ hswitch => exact (switchToFunctionGraph_undone hswitch).1

/-- The tracer and the buffer leave no belief changed when they are refused, and only files of the
tracer written. -/
theorem rest_refused (h : (installTracerAndBuffer r).run.run a = (.error failure, a')) :
    a'.installed = a.installed ∧
      a.facility.WritesOnly (· ∈ Control.tracerFiles) a'.facility := by
  obtain hengage | ⟨engaged, a₁, hengage, -, rfl⟩ := installTracerAndBuffer_refused h
  · exact ⟨engageFunctionGraph_refused hengage,
      ((framed_engageFunctionGraph r).of_run hengage).facility⟩
  have hwrites := ((framed_engageFunctionGraph r).of_run hengage).facility
  cases engaged with
  | true =>
    refine ⟨?_, hwrites.trans (framed_disengageFunctionGraph a₁).facility⟩
    cases engage_case hengage with
    | switched _ _ hidle hswitch => exact (disengageFunctionGraph_undone hidle hswitch).1
  | false =>
    refine ⟨?_, hwrites⟩
    cases engage_case hengage <;> rfl

/-! ### Failed setups -/

/-- The files that a setup may have written when it fails. -/
def failureFiles : List String :=
  Control.syscallFilters ++ Control.tracerFiles

/-- Essentials that are refused leave the arbiter as it was, but for the filter on system calls and
the files of the filter and the tracer. -/
theorem frame_essentials_refused {filter : SyscallFilter}
    (h : (installEssentials r filter).run.run a = (.error failure, a')) :
    Frame (· ∈ failureFiles) Installed.withoutSyscallFilter a a' := by
  have hfilterFiles : ∀ path ∈ Control.syscallFilters, path ∈ failureFiles :=
    fun _ => List.mem_append_left _
  cases essentials_case h with
  | filterRefused _ a₁ hfilter =>
    have hinstall := (framed_installSyscallFilter filter).of_run hfilter
    exact (hinstall.trans (framed_restoreSyscallFilter a₁)).mono hfilterFiles fun _ => rfl
  | restRefused wrote a₁ _ a₂ hfilter hrest =>
    have hinstall := (framed_installSyscallFilter filter).of_run hfilter
    obtain ⟨hinstalled, hwrites⟩ := rest_refused hrest
    have hmiddle : Frame (· ∈ failureFiles) Installed.withoutSyscallFilter a₁ a₂ :=
      { (framed_installTracerAndBuffer r).of_run hrest with
        facility := hwrites.mono fun _ => List.mem_append_right _
        installed := by rw [hinstalled] }
    exact ((hinstall.mono hfilterFiles fun _ => rfl).trans hmiddle).trans
      ((framed_undoFilter wrote a₂).mono hfilterFiles fun _ => rfl)

theorem essentials_failure {filter : SyscallFilter}
    (h : (installEssentials r filter).run.run a = (.error failure, a')) :
    ∃ path, failure = .facility (.writeFailed path injected) := by
  obtain ⟨path, -, rfl⟩ := (blames_installEssentials r filter a).2 failure (congrArg Prod.fst h)
  exact ⟨path, rfl⟩

theorem syscallFilter_essentials_refused {filter : SyscallFilter}
    (h : (installEssentials r filter).run.run a = (.error failure, a')) :
    a'.installed.syscallFilter = a.installed.syscallFilter ∨
      a'.installed.syscallFilter = unionOfSyscalls a.configs := by
  cases essentials_case h with
  | filterRefused _ a₁ hfilter =>
    have hconfigs := ((framed_installSyscallFilter filter).of_run hfilter).configs
    rw [installSyscallFilter_run] at hfilter
    split at hfilter
    · cases hfilter
    split at hfilter
    · cases hfilter
    cases hfilter
    rw [restoreSyscallFilter_run]
    split
    · exact .inr rfl
    · exact .inl rfl
  | restRefused wrote a₁ _ a₂ hfilter hrest =>
    exact .inr (syscallFilter_undoFilter hfilter ((framed_installTracerAndBuffer r).of_run hrest))

/-- A setup that gives no session has failed in its checks or in its essentials. -/
theorem setup_failed {report report' : SetupReport}
    (h : (setup r report).run a = ((.invalid, report'), a')) :
    ∃ failure, report'.failure = some failure ∧
      (a' = a ∨ (installEssentials r (r.plan a.catalog).syscallFilter).run.run a =
        (.error failure, a')) := by
  generalize hinvalid : SessionId.invalid = id at h
  cases setup_case h with
  | refused _ failure hreport => exact ⟨failure, hreport, .inl rfl⟩
  | undone _ failure _ hreport _ hundone => exact ⟨failure, hreport, .inr hundone⟩
  | completed _ _ _ hid => exact absurd hinvalid.symm (SessionId.next?_ne_invalid hid)

/-- A setup that gives no session leaves sessions, ids and beliefs as they were, apart from the filter
on system calls, which stays or becomes what the sessions record. It writes no files but those of the
filter and the tracer, leaves annotations alone and says why it failed; and it has done nothing at all
when it failed in its checks. -/
theorem setup_invalid (a : Arbiter Simulation) (r : Request) (report : SetupReport)
    (hinvalid : ((setup r report).run a).1.1 = .invalid) :
    let failed := (setup r report).run a
    Frame (· ∈ failureFiles) Installed.withoutSyscallFilter a failed.2 ∧
      (failed.2.installed.syscallFilter = a.installed.syscallFilter ∨
        failed.2.installed.syscallFilter = unionOfSyscalls a.configs) ∧
      failed.2.facility.annotations = a.facility.annotations ∧
      ∃ failure, failed.1.2.failure = some failure ∧ (failure.isPreflight → failed.2 = a) := by
  intro failed
  have hrun : (setup r report).run a = ((.invalid, failed.1.2), failed.2) :=
    Prod.ext (Prod.ext hinvalid rfl) rfl
  obtain ⟨failure, hreport, hunchanged | hrefused⟩ := setup_failed hrun
  · rw [hunchanged]
    exact ⟨.refl _ _ a, .inl rfl, rfl, failure, hreport, fun _ => rfl⟩
  · have hannotations := congrArg Simulation.annotations
      ((SameButFiles.allows.installEssentials r _).of_run hrefused)
    refine ⟨frame_essentials_refused hrefused, syscallFilter_essentials_refused hrefused,
      hannotations, failure, hreport, fun hpreflight => ?_⟩
    obtain ⟨path, rfl⟩ := essentials_failure hrefused
    cases hpreflight

/-- Records a system call and engages the tracer. -/
def recordCallAndGraph (call : String) : Request where
  events := ["raw_syscalls/*"]
  syscalls := [call]
  functionGraph := true

/-- A session records a system call, and then the function filters can no longer be written. -/
def lockedTracer : List Step :=
  [recordCall "0", .rig (.failWritesTo Control.functionFilter)]

/-- The filter of the second session has been written when its tracer is refused, and is recalled. -/
theorem setup_invalid_lockedTracer :
    let a := (fresh smallCatalog {}).after lockedTracer
    let failed := (setup (recordCallAndGraph "1") {}).run a
    failed.1.1 = .invalid ∧ Frame (· ∈ failureFiles) Installed.withoutSyscallFilter a failed.2 ∧
      failed.2.installed.syscallFilter = .explicit {0} ∧
      failed.2.facility.annotations = none ∧
      failed.1.2.failure = some (.facility (.writeFailed Control.functionFilter injected)) := by
  have hruns :
      ((setup (recordCallAndGraph "1") {}).run
        ((fresh smallCatalog {}).after lockedTracer)).1.1 = .invalid ∧
      ((setup (recordCallAndGraph "1") {}).run
        ((fresh smallCatalog {}).after lockedTracer)).2.installed.syscallFilter = .explicit {0} ∧
      ((fresh smallCatalog {}).after lockedTracer).facility.annotations = none ∧
      ((setup (recordCallAndGraph "1") {}).run
        ((fresh smallCatalog {}).after lockedTracer)).1.2.failure =
          some (.facility (.writeFailed Control.functionFilter injected)) := by
    decide +kernel
  obtain ⟨hinvalid, hrecalled, hnone, hfailure⟩ := hruns
  obtain ⟨hframe, -, hannotations, -⟩ := setup_invalid _ _ {} hinvalid
  exact ⟨hinvalid, hframe, hrecalled, hannotations.trans hnone, hfailure⟩

end Arbiter

end TraceArbiter
