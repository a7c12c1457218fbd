import TraceArbiter.Proofs.Event.Installed
import TraceArbiter.Proofs.Syscall.Writes

/-!
# Filters that others have left

An arbiter that has not set up anything yet takes the facility to be free of filters on system calls,
whatever the files hold. So the first session replaces what others have left in them only if it is
itself restricted to some calls: a session that records all calls, or whose list names none that is
known, comes down to no filter, which is what the arbiter takes to be installed, and nothing is
written. Main statement: only in that case, and only if something was left, do the files not hold the
filter of the session afterwards.
-/

namespace TraceArbiter

open Std

/-! ### What a request comes to -/

theorem SyscallFilter.none_union (f : SyscallFilter) : SyscallFilter.none.union f = f := by
  rw [union_comm, union_none]

theorem SyscallFilter.restriction_ofIds_isSome (ids : List SyscallId) :
    (ofIds (ExtTreeSet.ofList ids)).restriction.isSome ↔ ids ≠ [] := by
  unfold ofIds
  cases ids with
  | nil => simp [restriction]
  | cons id ids =>
    have hne : (ExtTreeSet.ofList (id :: ids)).isEmpty = false := by
      simp
    rw [hne]
    simp [restriction, hne]

/-- A session that records system calls is restricted to some if its request lists one that is
known. -/
theorem Request.restriction_syscallPlan_isSome (r : Request) (catalog : Catalog) {f : EventFilter}
    (hgroup : f.hasGroup catalog.events rawSyscallGroup) :
    (r.syscallPlan catalog f).1.restriction.isSome ↔
      ∃ entry ∈ r.syscalls, (catalog.syscalls.resolve? entry).isSome := by
  unfold syscallPlan
  rw [if_neg (by simp [hgroup])]
  split
  · next hnone =>
    rw [List.isEmpty_iff.mp hnone]
    simp [SyscallFilter.restriction]
  · dsimp only
    rw [SyscallFilter.restriction_ofIds_isSome, ne_eq, List.filterMap_eq_nil_iff]
    simp only [not_forall, ← Option.isSome_iff_ne_none, exists_prop]

namespace Arbiter

variable {a : Arbiter Simulation} {r : Request} {report : SetupReport}

theorem mem_of_granted {wanted : List Event} {id : EventId}
    (h : ((enableEvents wanted).run a).1.1.isEnabled id) : id ∈ wanted.map Event.id := by
  induction wanted generalizing a with
  | nil =>
    change ({} : EventFilter).isEnabled id at h
    rw [EventFilter.isEnabled_empty] at h
    cases h
  | cons e wanted ih =>
    rw [enableEvents_cons_run] at h
    dsimp only at h
    split at h
    · rw [EventFilter.isEnabled_add] at h
      exact List.mem_cons.mpr (h.imp Eq.symm ih)
    · exact List.mem_cons_of_mem _ (ih h)

/-- The session of a completed setup has the planned filter, and no events but planned ones. -/
theorem config_completeSetup (r : Request) (id : SessionId) (plan : Plan) (a : Arbiter Simulation) :
    ∃ config, ((completeSetup r id plan).run a).2.session? id = some config ∧
      config.syscallFilter = plan.syscallFilter ∧
      ∀ event, config.eventFilter.isEnabled event → event ∈ plan.events.map Event.id := by
  rw [completeSetup_run]
  exact ⟨_, ExtTreeMap.getElem?_insert_self, rfl, fun _ => mem_of_granted⟩

/-! ### The first session -/

/-- The first session leaves its filter in both files if it is restricted, and otherwise leaves the
files alone. -/
theorem filters_setup_first {s : Simulation} {catalog : Catalog} {settings : Settings}
    {id : SessionId} {report' : SetupReport} {a' : Arbiter Simulation}
    (hrun : (setup r report).run (freshOver s catalog settings) = ((id, report'), a'))
    (hworks : id ≠ .invalid) :
    if (r.plan catalog).syscallFilter.restriction = none then
      ∀ path ∈ Control.syscallFilters, a'.facility.value? path = s.value? path
    else a'.facility.FiltersHold (r.plan catalog).syscallFilter.expression := by
  obtain ⟨a₁, -, hessentials, rfl, -⟩ := setup_completed hrun hworks
  have hframe := frame_completeSetup r id (r.plan catalog) a₁
  have hcompletion : ∀ path ∈ Control.syscallFilters, ¬isCompletionFile path := by
    unfold isCompletionFile
    decide
  have hfree : (freshOver s catalog settings).installed.syscallFilter.restriction = none := rfl
  have hunion : (unionOfSyscalls (freshOver s catalog settings).configs).union
      (r.plan (freshOver s catalog settings).catalog).syscallFilter =
        (r.plan catalog).syscallFilter := SyscallFilter.none_union _
  have hfilters := filters_essentials_installed hessentials
  rw [hunion, hfree] at hfilters
  split
  · next hunrestricted =>
    rw [if_pos hunrestricted] at hfilters
    exact fun path hpath =>
      (hframe.facility.value?_eq path (hcompletion path hpath)).trans (hfilters path hpath)
  · next hrestricted =>
    rw [if_neg hrestricted] at hfilters
    exact hfilters.of_writesOnly hframe.facility hcompletion

/-- The first session, over whatever others have left in the files and whatever fails: if it records
system calls, the filter files hold its filter afterwards exactly if its request lists a call that is
known or both files were free of filters before. If it lists none, the files are as they were. -/
theorem filtersHold_setup_iff (s : Simulation) (catalog : Catalog) (settings : Settings)
    {r : Request} {report : SetupReport}
    (hworks : ((setup r report).run (freshOver s catalog settings)).1.1 ≠ .invalid) :
    let done := (setup r report).run (freshOver s catalog settings)
    ∃ config, done.2.session? done.1.1 = some config ∧
      (config.eventFilter.hasGroup catalog.events rawSyscallGroup →
        (done.2.facility.FiltersHold config.syscallFilter.expression ↔
          (∃ entry ∈ r.syscalls, (catalog.syscalls.resolve? entry).isSome) ∨
            s.FiltersHold SyscallFilter.clearExpression) ∧
        ((∀ entry ∈ r.syscalls, catalog.syscalls.resolve? entry = none) →
          ∀ path ∈ Control.syscallFilters,
            done.2.facility.value? path = s.value? path)) := by
  match hrun : (setup r report).run (freshOver s catalog settings) with
  | ((id, report'), a') =>
    rw [hrun] at hworks
    intro done
    have hfilters := filters_setup_first hrun hworks
    obtain ⟨a₁, -, -, rfl, -⟩ := setup_completed hrun hworks
    obtain ⟨config, hconfig, hfilter, hplanned⟩ :=
      config_completeSetup r id (r.plan catalog) a₁
    refine ⟨config, hconfig, fun hgroup => ?_⟩
    -- The events of the session are among those that its filter was planned for.
    have hrestricted : (r.plan catalog).syscallFilter.restriction.isSome ↔
        ∃ entry ∈ r.syscalls, (catalog.syscalls.resolve? entry).isSome :=
      r.restriction_syscallPlan_isSome catalog <| EventFilter.hasGroup_mono
        (fun event henabled => (EventFilter.isEnabled_ofList _ _).mpr (hplanned event henabled))
        hgroup
    rw [hfilter, ← hrestricted]
    split at hfilters
    · next hnone =>
      have hopen : done.2.facility.FiltersHold SyscallFilter.clearExpression ↔
          s.FiltersHold SyscallFilter.clearExpression :=
        forall₂_congr fun path hpath => by rw [hfilters path hpath]
      rw [hnone, SyscallFilter.expression_of_restriction hnone, hopen]
      exact ⟨(or_iff_right Bool.false_ne_true).symm, fun _ => hfilters⟩
    · next hsome =>
      have hsome := Option.isSome_iff_ne_none.mpr hsome
      refine ⟨iff_of_true hfilters (.inl hsome), fun hunknown => ?_⟩
      obtain ⟨entry, hentry, hknown⟩ := hrestricted.mp hsome
      rw [hunknown entry hentry] at hknown
      cases hknown

/-- Somebody has restricted the system calls that are recorded. -/
def restrictedByOthers : Simulation :=
  (Simulation.idle.poke Simulation.entryFilter "id == 5").poke Simulation.exitFilter "id == 5"

/-- Records the system calls of the list, or all if the list is empty. -/
def recordCalls (calls : List String) : Request where
  events := ["raw_syscalls/*"]
  syscalls := calls

/-- A session that records one call replaces the filter. -/
theorem filtersHold_setup_restrictedByOthers :
    let done := (setup (recordCalls ["0"]) {}).run (freshOver restrictedByOthers smallCatalog {})
    done.1.1 ≠ .invalid ∧
      ∃ config, done.2.session? done.1.1 = some config ∧
        config.eventFilter.hasGroup smallCatalog.events rawSyscallGroup ∧
        done.2.facility.FiltersHold config.syscallFilter.expression := by
  have hruns :
      ((setup (recordCalls ["0"]) {}).run
        (freshOver restrictedByOthers smallCatalog {})).1.1 = ⟨1⟩ ∧
      (((setup (recordCalls ["0"]) {}).run
        (freshOver restrictedByOthers smallCatalog {})).2.session? ⟨1⟩).map
          (·.eventFilter.hasGroup smallCatalog.events rawSyscallGroup) = some true ∧
      (smallCatalog.syscalls.resolve? "0").isSome := by
    decide +kernel
  obtain ⟨hid, hgroup, hknown⟩ := hruns
  have hworks : ((setup (recordCalls ["0"]) {}).run
      (freshOver restrictedByOthers smallCatalog {})).1.1 ≠ .invalid := by
    rw [hid]
    decide
  obtain ⟨config, hconfig, hholds⟩ :=
    filtersHold_setup_iff restrictedByOthers smallCatalog {} hworks
  rw [hid] at hconfig
  rw [hconfig] at hgroup
  have hgroup := Option.some.inj hgroup
  refine ⟨hworks, config, ?_, hgroup, (hholds hgroup).1.mpr (.inl ⟨"0", .head _, hknown⟩)⟩
  rw [hid]
  exact hconfig

/-- A session that records all calls does not, and records only what the others let through. -/
theorem not_filtersHold_restrictedByOthers :
    let done := (setup (recordCalls []) {}).run (freshOver restrictedByOthers smallCatalog {})
    done.1.1 = ⟨1⟩ ∧
      (done.2.session? ⟨1⟩).map (·.syscallFilter) = some .all ∧
      (done.2.session? ⟨1⟩).map
        (·.eventFilter.hasGroup smallCatalog.events rawSyscallGroup) = some true ∧
      ¬done.2.facility.FiltersHold SyscallFilter.all.expression := by
  have hruns :
      ((setup (recordCalls []) {}).run (freshOver restrictedByOthers smallCatalog {})).1.1 = ⟨1⟩ ∧
      (((setup (recordCalls []) {}).run
        (freshOver restrictedByOthers smallCatalog {})).2.session? ⟨1⟩).map (·.syscallFilter) =
          some .all ∧
      (((setup (recordCalls []) {}).run
        (freshOver restrictedByOthers smallCatalog {})).2.session? ⟨1⟩).map
          (·.eventFilter.hasGroup smallCatalog.events rawSyscallGroup) = some true ∧
      (((setup (recordCalls []) {}).run
        (freshOver restrictedByOthers smallCatalog {})).2.facility.value?
          Simulation.entryFilter).getD SyscallFilter.clearExpression ≠
        SyscallFilter.all.expression := by
    decide +kernel
  obtain ⟨hid, hfilter, hgroup, hentry⟩ := hruns
  exact ⟨hid, hfilter, hgroup, fun hholds => hentry (hholds Simulation.entryFilter (by decide))⟩

end Arbiter

end TraceArbiter
