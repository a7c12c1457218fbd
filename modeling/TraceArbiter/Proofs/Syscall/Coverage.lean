import TraceArbiter.Proofs.Syscall.Installed

/-!
# Coverage of system calls

Whether the filter files let through what the sessions record. Writing a filter keeps that, taken or
refused, because what is written always covers the sessions that are left, and a removal only leaves
fewer. What can break it is a setup that does without a write: the arbiter believes that the filter
it needs is installed, and after a removal whose filter write was refused the files may be narrower
than that.
-/

namespace TraceArbiter

open Std

/-! ### Facilities -/

namespace Simulation

/-- Both filter files let through every call that the filter wants. -/
def FilesAdmit (s : Simulation) (filter : SyscallFilter) : Prop :=
  ∀ path ∈ Control.syscallFilters, ∀ call,
    filter.admits call → SyscallFilter.fileAdmits (s.value? path) call

namespace FilesAdmit

variable {s s' : Simulation} {filter wider : SyscallFilter}

theorem of_files (h : s.FilesAdmit filter)
    (hfiles : ∀ path ∈ Control.syscallFilters, s'.value? path = s.value? path) :
    s'.FilesAdmit filter := by
  intro path hpath call hcall
  rw [hfiles path hpath]
  exact h path hpath call hcall

theorem of_filtersHold (h : s.FiltersHold filter.expression) : s.FilesAdmit filter := by
  intro path hpath call hcall
  rw [← SyscallFilter.fileAdmits_getD, h path hpath]
  exact SyscallFilter.fileAdmits_of_admits hcall

theorem mono (h : s.FilesAdmit wider) (hle : ∀ call, filter.admits call → wider.admits call) :
    s.FilesAdmit filter :=
  fun path hpath call hcall => h path hpath call (hle call hcall)

/-- Writing a wider filter keeps what is let through, whether the write is taken or refused. -/
theorem setSyscallFilter (h : s.FilesAdmit filter)
    (hle : ∀ call, filter.admits call → wider.admits call) :
    ((Control.setSyscallFilter wider.expression : Access Simulation Unit).run.run s).2.FilesAdmit
      filter := by
  match hrun : (Control.setSyscallFilter wider.expression : Access Simulation Unit).run.run s with
  | (.ok (), s') =>
    exact (of_filtersHold (Simulation.setSyscallFilter_ok hrun).1).mono hle
  | (.error e, s') =>
    intro path hpath call hcall
    obtain ⟨hkeep, -⟩ := Simulation.setSyscallFilter_error hrun
    dsimp only
    obtain heq | heq := hkeep path hpath
    · rw [heq]
      exact h path hpath call hcall
    · rw [heq]
      exact SyscallFilter.fileAdmits_of_admits (hle call hcall)

end FilesAdmit

end Simulation

namespace Arbiter

/-! ### Arbiters -/

/-- Both filter files let through every call that a session records. -/
def FilesCover (a : Arbiter Simulation) : Prop :=
  ∀ path ∈ Control.syscallFilters, ∀ id config, a.session? id = some config →
    ∀ call, config.syscallFilter.admits call →
      SyscallFilter.fileAdmits (a.facility.value? path) call

variable {a a' : Arbiter Simulation}

theorem filesCover_iff : a.FilesCover ↔ a.facility.FilesAdmit (unionOfSyscalls a.configs) := by
  constructor
  · intro h path hpath call hcall
    obtain ⟨config, hmem, hadmits⟩ := (admits_unionOfSyscalls _ _).mp hcall
    obtain ⟨id, hconfig⟩ := mem_configs.mp hmem
    exact h path hpath id config hconfig call hadmits
  · intro h path hpath id config hconfig call hcall
    refine h path hpath call ((admits_unionOfSyscalls _ _).mpr ⟨config, ?_, hcall⟩)
    exact mem_configs.mpr ⟨id, hconfig⟩

theorem FilesCover.of_frame {P : String → Prop} {view : Installed → Installed}
    {active : ExtTreeSet SessionId} (ha : a.FilesCover) (h : Frame P view { a with active } a')
    (hP : ∀ path ∈ Control.syscallFilters, ¬P path) : a'.FilesCover := by
  rw [filesCover_iff] at ha ⊢
  rw [h.configs]
  exact ha.of_files fun path hpath => h.facility.value?_eq path (hP path hpath)

/-- Installing a filter, whether it works or not, keeps what the files let through of the sessions. -/
theorem FilesCover.installSyscallFilter (ha : a.FilesCover) (extra : SyscallFilter) :
    ((installSyscallFilter extra).run.run a).2.FilesCover := by
  have hle : ∀ call, (unionOfSyscalls a.configs).admits call →
      ((unionOfSyscalls a.configs).union extra).admits call := by
    intro call hcall
    rw [SyscallFilter.admits_union, hcall, Bool.true_or]
  have hwritten := (filesCover_iff.mp ha).setSyscallFilter hle
  rw [filesCover_iff, (framed_installSyscallFilter extra a).configs, installSyscallFilter_run]
  split
  · exact filesCover_iff.mp ha
  · split
    · next hwrite =>
      rw [hwrite] at hwritten
      exact hwritten
    · next hwrite =>
      rw [hwrite] at hwritten
      exact hwritten

theorem FilesCover.restoreSyscallFilter (ha : a.FilesCover) :
    (restoreSyscallFilter.run a).2.FilesCover := by
  have hwritten := (filesCover_iff.mp ha).setSyscallFilter fun _ h => h
  rw [filesCover_iff, (framed_restoreSyscallFilter a).configs, restoreSyscallFilter_run]
  split
  · next hwrite =>
    rw [hwrite] at hwritten
    exact hwritten
  · next hwrite =>
    rw [hwrite] at hwritten
    exact hwritten

/-- Whatever the essentials of a setup come to, the sessions there were before keep what the files let
through. -/
theorem FilesCover.installEssentials (ha : a.FilesCover) (r : Request) (filter : SyscallFilter) :
    ((installEssentials r filter).run.run a).2.FilesCover := by
  have hfilter := ha.installSyscallFilter filter
  match hrun : (Arbiter.installEssentials r filter).run.run a with
  | (result, a') =>
    cases essentials_case hrun with
    | filterRefused _ a₁ hrefused =>
      rw [hrefused] at hfilter
      exact hfilter.restoreSyscallFilter
    | restRefused wrote a₁ _ a₂ hinstalled hrest =>
      have hframe := (framed_installTracerAndBuffer r).of_run hrest
      rw [hinstalled] at hfilter
      have hcover := hfilter.of_frame hframe (by decide)
      cases wrote with
      | true => exact hcover.restoreSyscallFilter
      | false => exact hcover
    | installed wrote a₁ _ hinstalled hrest =>
      have hframe := (framed_installTracerAndBuffer r).of_run hrest
      rw [hinstalled] at hfilter
      exact hfilter.of_frame hframe (by decide)

/-- Essentials that are installed let through what the new session records, unless they were
installed without a write and the files did not let it through before. -/
theorem filesAdmit_essentials_iff {r : Request} {filter : SyscallFilter}
    (h : (installEssentials r filter).run.run a = (.ok (), a')) :
    a'.facility.FilesAdmit filter ↔
      ¬(((unionOfSyscalls a.configs).union filter).restriction =
          a.installed.syscallFilter.restriction ∧ ¬a.facility.FilesAdmit filter) := by
  have hfilters := filters_essentials_installed h
  split at hfilters
  · next hsame =>
    rw [and_iff_right hsame, not_not]
    exact ⟨fun hlets => hlets.of_files fun path hpath => (hfilters path hpath).symm,
      fun hlets => hlets.of_files hfilters⟩
  · next hdifferent =>
    refine iff_of_true ?_ fun h => hdifferent h.1
    refine Simulation.FilesAdmit.mono (.of_filtersHold hfilters) fun call hcall => ?_
    rw [SyscallFilter.admits_union, hcall, Bool.or_true]

/-! ### Runs -/

/-- The step sets up a session without writing its filter, although a file does not let through what
the session records. -/
def NarrowsFilter (a : Arbiter Simulation) : Step → Prop
  | .setup r report =>
    ((setup r report).run a).1.1 ≠ .invalid ∧
      ((unionOfSyscalls a.configs).union (r.plan a.catalog).syscallFilter).restriction =
        a.installed.syscallFilter.restriction ∧
      ¬a.facility.FilesAdmit (r.plan a.catalog).syscallFilter
  | _ => False

theorem filesCover_setup_iff (ha : a.FilesCover) (hids : a.IdsAllotted) (r : Request)
    (report : SetupReport) :
    ((setup r report).run a).2.FilesCover ↔ ¬NarrowsFilter a (.setup r report) := by
  have hcover := ha.installEssentials r (r.plan a.catalog).syscallFilter
  dsimp only [NarrowsFilter]
  match hrun : (setup r report).run a with
  | ((id, report'), a') =>
    cases setup_case hrun with
    | refused => exact iff_of_true ha fun h => h.1 rfl
    | undone _ _ _ _ _ hundone =>
      rw [hundone] at hcover
      exact iff_of_true hcover fun h => h.1 rfl
    | completed _ _ a₁ hid _ hdone =>
      have hframe := (framed_installEssentials r _).of_run hdone
      rw [hdone] at hcover
      have hids' := hids.of_frame hframe
      have hid' : a₁.lastId.next? = some id := by rw [hframe.lastId]; exact hid
      have hlets := filesCover_iff.mp hcover
      have hfiles : ∀ path ∈ Control.syscallFilters,
          ((completeSetup r id (r.plan a.catalog)).run a₁).2.facility.value? path =
            a₁.facility.value? path := by
        intro path hpath
        refine (frame_completeSetup r id _ a₁).facility.value?_eq path ?_
        unfold isCompletionFile
        revert path
        decide
      dsimp only at hlets ⊢
      rw [and_iff_right (SessionId.next?_ne_invalid hid), ← filesAdmit_essentials_iff hdone,
        filesCover_iff, unionOfSyscalls_completeSetup r _ hids' hid']
      constructor
      · intro h
        refine (h.mono fun call hcall => ?_).of_files fun path hpath => (hfiles path hpath).symm
        rw [SyscallFilter.admits_union, hcall, Bool.or_true]
      · intro h
        refine Simulation.FilesAdmit.of_files (fun path hpath call hcall => ?_) hfiles
        rw [SyscallFilter.admits_union, Bool.or_eq_true] at hcall
        exact hcall.elim (hlets path hpath call) (h path hpath call)

theorem FilesCover.remove (ha : a.FilesCover) (id : SessionId) :
    ((remove id).run a).2.FilesCover := by
  by_cases hregistered : a.isRegistered id
  · have hwithout : (a.without id).FilesCover := fun path hpath id' config hconfig =>
      ha path hpath id' config (session?_of_without hconfig)
    have hannotated := hwithout.of_frame (framed_shrinkAnnotations (a.without id)) fun _ _ h => h
    have hfiltered : (a.beforeEvents id).FilesCover := hannotated.installSyscallFilter .none
    have hshrunk := hfiltered.of_frame (framed_shrinkEvents (a.beforeEvents id)) (by decide)
    rw [remove_registered_run hregistered]
    exact hshrunk.of_frame (frame_deactivate id _) (by decide)
  · rw [remove_run, if_neg hregistered]
    exact ha

theorem filesCover_apply_iff (ha : a.FilesCover) (hids : a.IdsAllotted) {step : Step}
    (houtside : ¬step.isOutside) : (step.apply a).FilesCover ↔ ¬NarrowsFilter a step := by
  cases step with
  | setup r report => exact filesCover_setup_iff ha hids r report
  | activate id => exact iff_of_true (ha.of_frame (frame_activate id a) (by decide)) not_false
  | remove id => exact iff_of_true (ha.remove id) not_false
  | resetTracer => exact iff_of_true (ha.of_frame (framed_resetTracer a) (by decide)) not_false
  | rig rigging =>
    refine iff_of_true (fun path hpath id config hconfig call hcall => ?_) not_false
    change SyscallFilter.fileAdmits ((rigging.apply a.facility).value? path) call
    rw [Rigging.value?_apply]
    exact ha path hpath id config hconfig call hcall
  | poke path value => exact absurd rfl houtside

theorem throughout_filesCover_iff (ha : a.FilesCover) (hids : a.IdsAllotted) {steps : List Step}
    (houtside : ∀ step ∈ steps, ¬step.isOutside) :
    Throughout FilesCover a steps ↔ Along (fun a step => ¬NarrowsFilter a step) a steps := by
  -- Each step is judged in a state that is covered, up to the first one that loses coverage.
  induction steps generalizing a with
  | nil => exact iff_of_true (throughout_nil.mpr ha) trivial
  | cons step steps ih =>
    have hstep := filesCover_apply_iff ha hids (houtside step (.head _))
    rw [throughout_cons, and_iff_right ha]
    constructor
    · intro h
      have hcover := h.start
      exact ⟨hstep.mp hcover, (ih hcover (hids.apply step) fun s hs => houtside s (.tail _ hs)).mp h⟩
    · rintro ⟨hnarrow, hrest⟩
      exact (ih (hstep.mpr hnarrow) (hids.apply step) fun s hs => houtside s (.tail _ hs)).mpr hrest

theorem FilterRight.filesCover (ha : a.FilterRight) : a.FilesCover :=
  filesCover_iff.mpr (.of_filtersHold ha.installed.written)

/-- As long as nobody else writes control files, the files let through what the sessions record in
every state up to the first setup that narrows the filter, and there is no such setup unless a filter
write was refused during a removal. -/
theorem filesCover_throughout_iff (catalog : Catalog) (settings : Settings) {steps : List Step}
    (houtside : ∀ step ∈ steps, ¬step.isOutside) :
    (Throughout FilesCover (fresh catalog settings) steps ↔
        Along (fun a step => ¬NarrowsFilter a step) (fresh catalog settings) steps) ∧
      (Along FilterRemovable (fresh catalog settings) steps →
        Throughout FilesCover (fresh catalog settings) steps) := by
  have hfresh := FilterRight.fresh catalog settings
  refine ⟨throughout_filesCover_iff hfresh.filesCover hfresh.ids houtside, ?_⟩
  intro hremovable taken htaken
  refine (hfresh.after (fun step hstep => ?_) (hremovable.of_prefix htaken)).filesCover
  exact houtside step (htaken.subset hstep)

/-- The filter of the second session is taken back at the entry and not at the exit. Once writes work
again, the next session records the same call, which the arbiter believes to be let through at the
entry. -/
def narrowingRun : List Step :=
  [recordCall "0", recordCall "1", .rig (.failWritesTo "events/raw_syscalls/sys_exit/filter"),
    .remove ⟨2⟩, .rig .clearFailures, recordCall "1"]

theorem filesCover_throughout_narrowingRun_iff :
    (∀ step ∈ narrowingRun, ¬step.isOutside) ∧
      (Throughout FilesCover (fresh smallCatalog {}) narrowingRun ↔
        Along (fun a step => ¬NarrowsFilter a step) (fresh smallCatalog {}) narrowingRun) ∧
      (Along FilterRemovable (fresh smallCatalog {}) narrowingRun →
        Throughout FilesCover (fresh smallCatalog {}) narrowingRun) := by
  have houtside : ∀ step ∈ narrowingRun, ¬step.isOutside := by decide
  exact ⟨houtside, filesCover_throughout_iff smallCatalog {} houtside⟩

theorem not_filesCover_after_narrowingRun :
    (∀ step ∈ narrowingRun, ¬step.isOutside) ∧
      ¬((fresh smallCatalog {}).after narrowingRun).FilesCover := by
  refine ⟨by decide, fun hcover => ?_⟩
  have hrecorded : (((fresh smallCatalog {}).after narrowingRun).session? ⟨3⟩).any
      (·.syscallFilter.admits 1) := by
    decide +kernel
  obtain ⟨config, hconfig, hadmits⟩ := Option.any_eq_true _ _ |>.mp hrecorded
  have hlets := hcover Simulation.entryFilter (by decide) ⟨3⟩ config hconfig 1 hadmits
  revert hlets
  decide +kernel

end Arbiter

end TraceArbiter
