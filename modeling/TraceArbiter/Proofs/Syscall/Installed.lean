import TraceArbiter.Proofs.Arbiter.Sessions
import TraceArbiter.Proofs.Run
import TraceArbiter.Proofs.Syscall.Writes

/-!
# The installed syscall filter

The filter that is installed is the union of what the sessions record, by the arbiter's beliefs and by
the files. A setup that fails takes its filter back in one of three ways, and each leads back to the
union of the sessions that are left. The one way to lose track is a removal whose filter write is
refused: it leaves the beliefs as they were, and the files perhaps apart.
-/

namespace TraceArbiter

open Std

namespace Arbiter

/-- The filter is installed, by the beliefs and by both files. -/
structure FilterInstalled (a : Arbiter Simulation) (filter : SyscallFilter) : Prop where
  believed : a.installed.syscallFilter = filter
  written : a.facility.FiltersHold filter.expression

namespace FilterInstalled

variable {a a' : Arbiter Simulation} {filter extra : SyscallFilter}

theorem of_frame {P : String → Prop} {view : Installed → Installed} {lastId : SessionId}
    {sessions : ExtTreeMap SessionId SessionConfig} {active : ExtTreeSet SessionId}
    (ha : a.FilterInstalled filter) (h : Frame P view { a with lastId, sessions, active } a')
    (hP : ∀ path ∈ Control.syscallFilters, ¬P path)
    (hview : ∀ i, (view i).syscallFilter = i.syscallFilter) : a'.FilterInstalled filter := by
  refine ⟨?_, ha.written.of_writesOnly h.facility hP⟩
  rw [h.belief Installed.syscallFilter hview, ha.believed]

/-- Filters that restrict to the same calls take each other's place without a write. -/
theorem believe (ha : a.FilterInstalled filter) (hsame : extra.restriction = filter.restriction) :
    (a.note fun i => { i with syscallFilter := extra }).FilterInstalled extra := by
  refine ⟨rfl, ?_⟩
  rw [SyscallFilter.expression_congr hsame]
  exact ha.written

theorem install {wrote : Bool} (ha : a.FilterInstalled filter)
    (h : (installSyscallFilter extra).run.run a = (.ok wrote, a')) :
    a'.FilterInstalled ((unionOfSyscalls a.configs).union extra) := by
  rw [installSyscallFilter_run] at h
  split at h
  · next hsame =>
    cases h
    rw [ha.believed] at hsame
    exact ha.believe hsame
  · split at h
    · next hwrite =>
      cases h
      exact ⟨rfl, (Simulation.setSyscallFilter_ok hwrite).1⟩
    · cases h

/-- A refused filter is undone, also when undoing it is refused. -/
theorem restore_of_refused {failure : SetupFailure}
    (ha : a.FilterInstalled (unionOfSyscalls a.configs))
    (h : (installSyscallFilter extra).run.run a = (.error failure, a')) :
    (restoreSyscallFilter.run a').2.FilterInstalled (unionOfSyscalls a.configs) := by
  rw [installSyscallFilter_run] at h
  split at h
  · cases h
  · split at h
    · cases h
    · next hwrite =>
      cases h
      -- The write that undoes the filter is refused at the same file, so the beliefs stay too.
      obtain ⟨-, hagain⟩ := Simulation.setSyscallFilter_error hwrite
      obtain ⟨s, hrestore, hkeep⟩ := hagain (unionOfSyscalls a.configs).expression
      rw [restoreSyscallFilter_run]
      dsimp only [configs] at hrestore ⊢
      rw [hrestore]
      exact ⟨ha.believed, ha.written.of_keepOrHold hkeep⟩

/-- A filter that was installed is undone by a write if it took one, and else by recalling what was
believed before. -/
theorem undo {wrote : Bool} {a₁ a₂ : Arbiter Simulation} {P : String → Prop}
    {view : Installed → Installed} (ha : a.FilterInstalled (unionOfSyscalls a.configs))
    (h : (installSyscallFilter extra).run.run a = (.ok wrote, a₁)) (hframe : Frame P view a₁ a₂)
    (hP : ∀ path ∈ Control.syscallFilters, ¬P path) :
    ((undoFilter wrote).run a₂).2.FilterInstalled (unionOfSyscalls a.configs) := by
  have hinstalled := ha.install h
  rw [installSyscallFilter_run] at h
  split at h
  · next hsame =>
    cases h
    rw [ha.believed] at hsame
    change (recallSyscallFilter.run a₂).2.FilterInstalled _
    rw [recallSyscallFilter_run, hframe.configs]
    -- Nothing was written, so the files hold what both filters are written as.
    refine ⟨rfl, ?_⟩
    rw [← SyscallFilter.expression_congr hsame]
    exact hinstalled.written.of_writesOnly hframe.facility hP
  · split at h
    · next hwrite =>
      cases h
      obtain ⟨-, hagain⟩ := Simulation.setSyscallFilter_ok hwrite
      obtain ⟨s, hrestore⟩ := hagain (unionOfSyscalls a.configs).expression a₂.facility
        hframe.facility.failingWrites_eq
      change (restoreSyscallFilter.run a₂).2.FilterInstalled _
      rw [restoreSyscallFilter_run, hframe.configs]
      dsimp only [configs] at hrestore ⊢
      rw [hrestore]
      exact ⟨rfl, (Simulation.setSyscallFilter_ok hrestore).1⟩
    · cases h

theorem essentials {r : Request} (ha : a.FilterInstalled (unionOfSyscalls a.configs))
    (h : (installEssentials r extra).run.run a = (.ok (), a')) :
    a'.FilterInstalled ((unionOfSyscalls a.configs).union extra) := by
  cases essentials_case h with
  | installed wrote a₁ _ hfilter hrest =>
    have hframe := (framed_installTracerAndBuffer r).of_run hrest
    exact (ha.install hfilter).of_frame hframe (by decide) fun _ => rfl

theorem essentials_refused {r : Request} {failure : SetupFailure}
    (ha : a.FilterInstalled (unionOfSyscalls a.configs))
    (h : (installEssentials r extra).run.run a = (.error failure, a')) :
    a'.FilterInstalled (unionOfSyscalls a.configs) := by
  cases essentials_case h with
  | filterRefused _ a₁ hfilter => exact ha.restore_of_refused hfilter
  | restRefused wrote a₁ _ a₂ hfilter hrest =>
    have hframe := (framed_installTracerAndBuffer r).of_run hrest
    exact ha.undo hfilter hframe (by decide)

end FilterInstalled

/-! ### Runs -/

theorem unionOfSyscalls_completeSetup {a : Arbiter Simulation} {id : SessionId} (r : Request)
    (plan : Plan) (hids : a.IdsAllotted) (hid : a.lastId.next? = some id) :
    unionOfSyscalls ((completeSetup r id plan).run a).2.configs =
      (unionOfSyscalls a.configs).union plan.syscallFilter := by
  obtain ⟨-, config, hfilter, hsessions⟩ := sessions_completeSetup r id plan a
  rw [configs, hsessions, unionOfSyscalls_perm (configs_insert (hids.session?_next hid)), unionOfSyscalls_cons,
    hfilter]

structure FilterRight (a : Arbiter Simulation) : Prop where
  installed : a.FilterInstalled (unionOfSyscalls a.configs)
  ids : a.IdsAllotted

namespace FilterRight

variable {a a' : Arbiter Simulation}

theorem fresh (catalog : Catalog) (settings : Settings) :
    (Arbiter.fresh catalog settings).FilterRight := by
  refine ⟨⟨rfl, ?_⟩, ?_⟩
  · change Simulation.idle.FiltersHold SyscallFilter.clearExpression
    unfold Simulation.FiltersHold
    decide +kernel
  · intro id config hconfig
    cases hconfig

theorem of_frame {P : String → Prop} {view : Installed → Installed} {active : ExtTreeSet SessionId}
    (ha : a.FilterRight) (h : Frame P view { a with active } a')
    (hP : ∀ path ∈ Control.syscallFilters, ¬P path)
    (hview : ∀ i, (view i).syscallFilter = i.syscallFilter) : a'.FilterRight := by
  refine ⟨?_, ha.ids.of_frame h⟩
  rw [h.configs]
  exact ha.installed.of_frame h hP hview

theorem completeSetup {r : Request} {id : SessionId} {plan : Plan}
    (ha : a.FilterInstalled ((unionOfSyscalls a.configs).union plan.syscallFilter))
    (hids : a.IdsAllotted) (hid : a.lastId.next? = some id) :
    ((completeSetup r id plan).run a).2.FilterRight := by
  have hframe := frame_completeSetup r id plan a
  refine ⟨?_, hids.completeSetup r plan hid⟩
  rw [unionOfSyscalls_completeSetup r plan hids hid]
  refine ha.of_frame hframe ?_ fun _ => rfl
  unfold isCompletionFile
  decide

theorem setup (ha : a.FilterRight) (r : Request) (report : SetupReport) :
    ((setup r report).run a).2.FilterRight := by
  match hrun : (Arbiter.setup r report).run a with
  | ((id, report'), a') =>
    cases setup_case hrun with
    | refused => exact ha
    | undone _ _ _ _ _ hundone =>
      have hframe := (framed_installEssentials r _).of_run hundone
      refine ⟨?_, ha.ids.of_frame hframe⟩
      rw [hframe.configs]
      exact ha.installed.essentials_refused hundone
    | completed _ _ a₁ hid _ hdone =>
      have hframe := (framed_installEssentials r _).of_run hdone
      refine completeSetup ?_ (ha.ids.of_frame hframe) (by rw [hframe.lastId]; exact hid)
      rw [hframe.configs]
      exact ha.installed.essentials hdone

theorem remove (ha : a.FilterRight) {id : SessionId}
    (hrefused : ∀ path ∈ refusedWrites (remove id) a, path ∉ Control.syscallFilters) :
    ((remove id).run a).2.FilterRight := by
  rw [remove_run]
  split
  · next hregistered =>
    have hshrink := framed_shrinkAnnotations (a.without id)
    have hannotated := ha.installed.of_frame hshrink (fun _ _ h => h) fun _ => rfl
    have hids := (ha.ids.without id).of_frame hshrink
    obtain ⟨wrote, a', hinstall⟩ := installSyscallFilter_of_not_refused hregistered hrefused
    have hframe := (framed_installSyscallFilter .none).of_run hinstall
    have hinstalled := hannotated.install hinstall
    rw [SyscallFilter.union_none, ← hframe.configs] at hinstalled
    have hfiltered : a'.FilterRight := ⟨hinstalled, hids.of_frame hframe⟩
    dsimp only
    rw [shrinkSyscallFilter_run, hinstall]
    have hshrunk := hfiltered.of_frame (framed_shrinkEvents a') (by decide) fun _ => rfl
    exact hshrunk.of_frame (frame_deactivate id _) (by decide) fun _ => rfl
  · exact ha

theorem resetTracer (ha : a.FilterRight) : (resetTracer.run a).2.FilterRight :=
  ha.of_frame (framed_resetTracer a) (by decide) fun _ => rfl

theorem rig (ha : a.FilterRight) (rigging : Rigging) :
    FilterRight { a with facility := rigging.apply a.facility } := by
  refine ⟨⟨ha.installed.believed, fun path hpath => ?_⟩, ha.ids⟩
  rw [Rigging.value?_apply]
  exact ha.installed.written path hpath

end FilterRight

/-- No write of the syscall filter is refused when the step is a removal. -/
def FilterRemovable (a : Arbiter Simulation) (step : Step) : Prop :=
  step.isRemoval → ∀ path ∈ step.refusedWrites a, path ∉ Control.syscallFilters

instance (a : Arbiter Simulation) (step : Step) : Decidable (FilterRemovable a step) :=
  inferInstanceAs (Decidable (_ → _))

theorem FilterRight.after {a : Arbiter Simulation} {steps : List Step}
    (houtside : ∀ step ∈ steps, ¬step.isOutside) (hremovable : Along FilterRemovable a steps)
    (ha : a.FilterRight) : (a.after steps).FilterRight := by
  refine ((Along.of_forall steps a houtside).and hremovable).invariant (fun a step ha hstep => ?_) ha
  obtain ⟨houtside, hremovable⟩ := hstep
  cases step with
  | setup r report => exact ha.setup r report
  | activate id => exact ha.of_frame (frame_activate id a) (by decide) fun _ => rfl
  | remove id => exact ha.remove (hremovable rfl)
  | resetTracer => exact ha.resetTracer
  | rig rigging => exact ha.rig rigging
  | poke path value => exact absurd rfl houtside

/-- As long as nobody else writes control files and no filter write is refused during a removal, the
filter that is installed is the union of what the sessions record, gone through in any order. -/
theorem installedFilter_after (catalog : Catalog) (settings : Settings) {steps : List Step}
    (houtside : ∀ step ∈ steps, ¬step.isOutside)
    (hremovable : Along FilterRemovable (fresh catalog settings) steps) :
    let a := (fresh catalog settings).after steps
    (∀ configs, configs.Perm a.configs → a.installed.syscallFilter = unionOfSyscalls configs) ∧
      ∀ path ∈ Control.syscallFilters,
        (a.facility.value? path).getD SyscallFilter.clearExpression =
          a.installed.syscallFilter.expression := by
  intro a
  obtain ⟨hinstalled, -⟩ := (FilterRight.fresh catalog settings).after houtside hremovable
  refine ⟨fun configs hconfigs => ?_, ?_⟩
  · rw [unionOfSyscalls_perm hconfigs]
    exact hinstalled.believed
  · rw [hinstalled.believed]
    exact hinstalled.written

/-- Two sessions with a filter each, a third whose filter is refused at the exit, and a fourth whose
buffer is refused; then the first session goes. -/
def refusedFilters : List Step :=
  [recordCall "0", recordCall "1", .rig (.failWritesTo "events/raw_syscalls/sys_exit/filter"),
    recordCall "2", .rig .clearFailures, .rig (.failWritesTo "set_ftrace_filter"),
    .setup { events := ["raw_syscalls/*"], functionGraph := true } {}, .remove ⟨1⟩]

theorem installedFilter_after_refusedFilters :
    (∀ step ∈ refusedFilters, ¬step.isOutside) ∧
      Along FilterRemovable (fresh smallCatalog {}) refusedFilters ∧
      let a := (fresh smallCatalog {}).after refusedFilters
      (∀ configs, configs.Perm a.configs → a.installed.syscallFilter = unionOfSyscalls configs) ∧
        ∀ path ∈ Control.syscallFilters,
          (a.facility.value? path).getD SyscallFilter.clearExpression = "id == 1" := by
  have houtside : ∀ step ∈ refusedFilters, ¬step.isOutside := by decide
  have hremovable : Along FilterRemovable (fresh smallCatalog {}) refusedFilters := by
    decide +kernel
  obtain ⟨hbelieved, hwritten⟩ := installedFilter_after smallCatalog {} houtside hremovable
  refine ⟨houtside, hremovable, hbelieved, fun path hpath => ?_⟩
  rw [hwritten path hpath]
  decide +kernel

end Arbiter

end TraceArbiter
