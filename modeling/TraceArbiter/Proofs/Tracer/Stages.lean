import TraceArbiter.Proofs.Arbiter.Stages
import TraceArbiter.Proofs.Buffer.Pages
import TraceArbiter.Proofs.Tracer.Writes

/-!
# The stages of the tracer

Engaging the function graph tracer and setting the size of the buffer, with every point where a write
may be refused. A setup that switches tracers takes the switch back when a later write is refused. A
setup that shares the tracer takes nothing back: function filters that it has added stay when its
graph filters are refused.
-/

namespace TraceArbiter

open Std

namespace Arbiter

open Simulation

variable {r : Request} {a a' : Arbiter Simulation} {failure : SetupFailure}

theorem require_write_run (a : Arbiter Simulation) {path : String} (value : String)
    (hall : path ≠ Control.allEvents) (hclock : path ≠ Control.traceClock) :
    (require (Facility.write path value)).run.run a =
      if path ∈ a.facility.failingWrites then
        (.error (.facility (.writeFailed path injected)), a)
      else (.ok (), { a with facility := a.facility.written path value value }) := by
  rw [require_run, write_run _ value hall hclock]
  split
  · next hwrite =>
    split at hwrite <;> cases hwrite
    next htaken => rw [if_neg htaken]
  · next hwrite =>
    split at hwrite <;> cases hwrite
    next hrefused => rw [if_pos hrefused]

/-! ### The filters of a request -/

theorem addFunctionFilters_run (r : Request) (a : Arbiter Simulation) :
    (addFunctionFilters r).run.run a =
      if r.functionFilters ≠ [] ∧ Control.functionFilter ∈ a.facility.failingWrites then
        (.error (.facility (.writeFailed Control.functionFilter injected)), a)
      else
        let added := a.facility.withLines Control.functionFilter r.functionFilters
        if r.functionGraphRoots ≠ [] ∧ Control.graphFilter ∈ a.facility.failingWrites then
          (.error (.facility (.writeFailed Control.graphFilter injected)), { a with facility := added })
        else
          (.ok (), { a with
            facility := added.withLines Control.graphFilter r.functionGraphRoots }) := by
  have hfilters := require_run (Control.appendFunctionFilters r.functionFilters) a
  unfold Control.appendFunctionFilters at hfilters
  unfold addFunctionFilters
  rw [appendAll_run] at hfilters
  split
  · next hrefused =>
    rw [if_pos hrefused] at hfilters
    exact run_bind_error hfilters
  · next htaken =>
    rw [if_neg htaken] at hfilters
    have hroots := require_run (Control.appendGraphFilters r.functionGraphRoots)
      { a with facility := a.facility.withLines Control.functionFilter r.functionFilters }
    unfold Control.appendGraphFilters at hroots
    rw [appendAll_run, failingWrites_withLines] at hroots
    refine (run_bind_ok hfilters).trans ?_
    dsimp only
    split
    · next hrefused =>
      rw [if_pos hrefused] at hroots
      exact hroots
    · next htaken =>
      rw [if_neg htaken] at hroots
      exact hroots

theorem dropFunctionFilters_run (a : Arbiter Simulation) :
    (dropFunctionFilters.run a).2 = { a with
      facility :=
        if Control.functionFilter ∈ a.facility.failingWrites then a.facility
        else if Control.graphFilter ∈ a.facility.failingWrites then
          a.facility.emptied Control.functionFilter
        else (a.facility.emptied Control.functionFilter).emptied Control.graphFilter } := by
  have hdrop := dropFilters_run a.facility
  unfold dropFunctionFilters
  rw [state_bind, access_run, hdrop]
  split
  · rfl
  · split <;> rfl

/-! ### Switching tracers -/

/-- Filters that could be emptied take lines too, so they are not refused after that. -/
theorem switchToFunctionGraph_run (r : Request) (a : Arbiter Simulation) :
    (switchToFunctionGraph r).run.run a =
      if Control.functionFilter ∈ a.facility.failingWrites then
        (.error (.facility (.writeFailed Control.functionFilter injected)), a)
      else if Control.graphFilter ∈ a.facility.failingWrites then
        (.error (.facility (.writeFailed Control.graphFilter injected)),
          { a with facility := a.facility.emptied Control.functionFilter })
      else if Control.currentTracer ∈ a.facility.failingWrites then
        (.error (.facility (.writeFailed Control.currentTracer injected)),
          { a with facility := a.facility.withFilters r })
      else
        (.ok (), { a with
          facility := (a.facility.withFilters r).written Control.currentTracer
            Control.functionGraphTracer Control.functionGraphTracer
          installed := { a.installed with functionGraph := true } }) := by
  have hclearFilters : (require Control.clearFunctionFilters).run.run a = _ :=
    require_write_run a "" (by decide) (by decide)
  unfold switchToFunctionGraph
  split
  · next hrefused =>
    rw [if_pos hrefused] at hclearFilters
    exact run_bind_error hclearFilters
  next hfunction =>
  rw [if_neg hfunction] at hclearFilters
  refine (run_bind_ok hclearFilters).trans ?_
  have hclearRoots : (require Control.clearGraphFilters).run.run
      { a with facility := a.facility.emptied Control.functionFilter } = _ :=
    require_write_run _ "" (by decide) (by decide)
  rw [failingWrites_emptied] at hclearRoots
  split
  · next hrefused =>
    rw [if_pos hrefused] at hclearRoots
    exact run_bind_error hclearRoots
  next hgraph =>
  rw [if_neg hgraph] at hclearRoots
  refine (run_bind_ok hclearRoots).trans ?_
  have hadd : (addFunctionFilters r).run.run { a with
      facility := (a.facility.emptied Control.functionFilter).emptied Control.graphFilter } =
      (.ok (), { a with facility := a.facility.withFilters r }) := by
    rw [addFunctionFilters_run, if_neg fun h => hfunction h.2]
    exact if_neg fun h => hgraph h.2
  refine (run_bind_ok hadd).trans ?_
  have hswitch : (require (Control.setTracer Control.functionGraphTracer)).run.run
      { a with facility := a.facility.withFilters r } = _ :=
    require_write_run _ _ (by decide) (by decide)
  rw [failingWrites_withFilters] at hswitch
  split
  · next hrefused =>
    rw [if_pos hrefused] at hswitch
    exact run_bind_error hswitch
  · next htaken =>
    rw [if_neg htaken] at hswitch
    exact run_bind_ok hswitch

theorem switchToFunctionGraph_made (h : (switchToFunctionGraph r).run.run a = (.ok (), a')) :
    (∀ path ∈ Control.tracerFiles, path ∉ a.facility.failingWrites) ∧ a' = { a with
      facility := (a.facility.withFilters r).written Control.currentTracer
        Control.functionGraphTracer Control.functionGraphTracer
      installed := { a.installed with functionGraph := true } } := by
  rw [switchToFunctionGraph_run] at h
  split at h
  · cases h
  next hfunction =>
  split at h
  · cases h
  next hgraph =>
  split at h
  · cases h
  next htracer =>
  cases h
  simp [Control.tracerFiles, htracer, hfunction, hgraph]

/-- A switch that is refused is taken back, though the refused file cannot be written then either. -/
theorem switchToFunctionGraph_undone
    (h : (switchToFunctionGraph r).run.run a = (.error failure, a')) :
    (dropFunctionFilters.run a').2.installed = a.installed ∧
      a.facility.KeepsOrRests (dropFunctionFilters.run a').2.facility := by
  rw [switchToFunctionGraph_run] at h
  split at h
  · next hfunction =>
    cases h
    rw [dropFunctionFilters_run, if_pos hfunction]
    exact ⟨rfl, .refl a.facility⟩
  next hfunction =>
  split at h
  · next hgraph =>
    cases h
    rw [dropFunctionFilters_run]
    dsimp only
    rw [failingWrites_emptied, if_neg hfunction, if_pos hgraph]
    exact ⟨rfl, ((KeepsOrRests.refl _).emptied (by decide)).emptied (by decide)⟩
  next hgraph =>
  split at h
  · cases h
    -- Only the tracer is refused, so both filters can be emptied again.
    rw [dropFunctionFilters_run]
    dsimp only
    rw [failingWrites_withFilters, if_neg hfunction, if_neg hgraph]
    exact ⟨rfl, .dropped fun path hpath => .inl (value?_withFilters r hpath)⟩
  · cases h

theorem disengageFunctionGraph_run (htracer : Control.currentTracer ∉ a.facility.failingWrites) :
    (disengageFunctionGraph.run a).2 = (dropFunctionFilters.run { a with
      facility := a.facility.written Control.currentTracer Control.idleTracer Control.idleTracer
      installed := { a.installed with functionGraph := false } }).2 := by
  have hreset : (Control.resetTracer : Access Simulation Unit).run.run a.facility = _ :=
    write_run _ Control.idleTracer (by decide) (by decide)
  rw [if_neg htracer] at hreset
  unfold disengageFunctionGraph
  rw [state_bind, state_modify, state_bind, access_run]
  dsimp only [note]
  rw [hreset]

theorem disengageFunctionGraph_undone {a₁ : Arbiter Simulation}
    (hidle : a.installed.functionGraph = false)
    (h : (switchToFunctionGraph r).run.run a = (.ok (), a₁)) :
    (disengageFunctionGraph.run a₁).2.installed = a.installed ∧
      a.facility.KeepsOrRests (disengageFunctionGraph.run a₁).2.facility := by
  obtain ⟨htaken, rfl⟩ := switchToFunctionGraph_made h
  have htracer := htaken Control.currentTracer (by decide)
  have hfunction := htaken Control.functionFilter (by decide)
  have hgraph := htaken Control.graphFilter (by decide)
  rw [disengageFunctionGraph_run (by simpa using htracer), dropFunctionFilters_run]
  dsimp only
  simp only [failingWrites_written, failingWrites_withFilters, hfunction, hgraph, if_false]
  refine ⟨?_, .dropped fun path hpath => ?_⟩
  · rw [← hidle]
  · rw [value?_written]
    split
    · next heq =>
      subst heq
      exact .inr (by decide +kernel)
    · next hne =>
      rw [value?_written, if_neg hne]
      exact .inl (value?_withFilters r hpath)

/-! ### The buffer -/

theorem pinBuffer_run (r : Request) (a : Arbiter Simulation) :
    (pinBuffer r).run.run a =
      let pages := a.settings.bufferPages r.bufferSizeKb
      let size := Text.writeDecimal (pages * a.settings.pageSizeKb)
      if a.installed.bufferPages ≠ 0 then (.ok (), a)
      else if Control.bufferSize ∈ a.facility.failingWrites then
        (.error (.facility (.writeFailed Control.bufferSize injected)), a)
      else (.ok (), { a with
        facility := a.facility.written Control.bufferSize size size
        installed := { a.installed with bufferPages := pages } }) := by
  unfold pinBuffer
  rw [run_get_bind]
  dsimp only
  by_cases hpinned : a.installed.bufferPages = 0
  · have hsize : (require (Control.setBufferSizeKb
        (a.settings.bufferPages r.bufferSizeKb * a.settings.pageSizeKb))).run.run a = _ :=
      require_write_run a _ (by decide) (by decide)
    rw [if_pos hpinned, if_neg (not_not.mpr hpinned)]
    split
    · next hrefused =>
      rw [if_pos hrefused] at hsize
      exact run_bind_error hsize
    · next htaken =>
      rw [if_neg htaken] at hsize
      exact run_bind_ok hsize
  · rw [if_neg hpinned, if_pos hpinned]
    rfl

/-- A buffer that is refused changes nothing, and nothing is refused once the size is set. -/
theorem pinBuffer_refused (h : (pinBuffer r).run.run a = (.error failure, a')) :
    a' = a ∧ a.installed.bufferPages = 0 := by
  rw [pinBuffer_run] at h
  dsimp only at h
  split at h
  · cases h
  next hpinned =>
  split at h
  · cases h
    exact ⟨rfl, not_not.mp hpinned⟩
  · cases h

theorem pinBuffer_pinned (h : (pinBuffer r).run.run a = (.ok (), a')) :
    a'.installed.bufferPages ≠ 0 := by
  rw [pinBuffer_run] at h
  dsimp only at h
  split at h
  · next hpinned =>
    cases h
    exact hpinned
  split at h
  · cases h
  · cases h
    exact a.settings.bufferPages_ne_zero r.bufferSizeKb

/-! ### Engaging -/

/-- The ways to engage the tracer, by what that gives and the state after it. -/
inductive EngageCase (r : Request) (a : Arbiter Simulation) :
    Except SetupFailure Bool → Arbiter Simulation → Prop
  | unwanted (hwanted : r.functionGraph = false) : EngageCase r a (.ok false) a
  | filtersRefused (hwanted : r.functionGraph) (hshared : a.installed.functionGraph) :
      EngageCase r a (.error (.facility (.writeFailed Control.functionFilter injected))) a
  | rootsRefused (hwanted : r.functionGraph) (hshared : a.installed.functionGraph) :
      EngageCase r a (.error (.facility (.writeFailed Control.graphFilter injected)))
        { a with facility := a.facility.withLines Control.functionFilter r.functionFilters }
  | added (hwanted : r.functionGraph) (hshared : a.installed.functionGraph) :
      EngageCase r a (.ok false) { a with
        facility := (a.facility.withLines Control.functionFilter r.functionFilters).withLines
          Control.graphFilter r.functionGraphRoots }
  | switchRefused (failure : SetupFailure) (a₁ : Arbiter Simulation) (hwanted : r.functionGraph)
      (hidle : a.installed.functionGraph = false)
      (hswitch : (switchToFunctionGraph r).run.run a = (.error failure, a₁)) :
      EngageCase r a (.error failure) (dropFunctionFilters.run a₁).2
  | switched (a₁ : Arbiter Simulation) (hwanted : r.functionGraph)
      (hidle : a.installed.functionGraph = false)
      (hswitch : (switchToFunctionGraph r).run.run a = (.ok (), a₁)) :
      EngageCase r a (.ok true) a₁

theorem engage_case {result : Except SetupFailure Bool}
    (h : (engageFunctionGraph r).run.run a = (result, a')) : EngageCase r a result a' := by
  unfold engageFunctionGraph at h
  split at h
  · next hwanted =>
    cases h
    exact .unwanted (by simpa using hwanted)
  next hwanted =>
  have hwanted : r.functionGraph = true := by simpa using hwanted
  rw [run_get_bind] at h
  split at h
  · next hshared =>
    have hadd := addFunctionFilters_run r a
    split at hadd
    · rw [run_bind_error hadd] at h
      cases h
      exact .filtersRefused hwanted hshared
    dsimp only at hadd
    split at hadd
    · rw [run_bind_error hadd] at h
      cases h
      exact .rootsRefused hwanted hshared
    · rw [run_bind_ok hadd] at h
      cases h
      exact .added hwanted hshared
  · next hidle =>
    have hidle : a.installed.functionGraph = false := by simpa using hidle
    rw [run_bind, orUndo_run] at h
    match hswitch : (switchToFunctionGraph r).run.run a with
    | (.error failure, a₁) =>
      rw [hswitch] at h
      cases h
      exact .switchRefused failure a₁ hwanted hidle hswitch
    | (.ok (), a₁) =>
      rw [hswitch] at h
      cases h
      exact .switched _ hwanted hidle hswitch

/-! ### The tracer and the buffer -/

/-- If the tracer or the buffer is refused, either the tracer could not be engaged, or it was and the
buffer took it with it. -/
theorem installTracerAndBuffer_refused
    (h : (installTracerAndBuffer r).run.run a = (.error failure, a')) :
    (engageFunctionGraph r).run.run a = (.error failure, a') ∨ ∃ engaged a₁,
      (engageFunctionGraph r).run.run a = (.ok engaged, a₁) ∧
        (pinBuffer r).run.run a₁ = (.error failure, a₁) ∧
        a' = if engaged then (disengageFunctionGraph.run a₁).2 else a₁ := by
  unfold installTracerAndBuffer at h
  rw [run_bind] at h
  match hengage : (engageFunctionGraph r).run.run a with
  | (.error e, a₁) =>
    rw [hengage] at h
    cases h
    exact .inl rfl
  | (.ok engaged, a₁) =>
    rw [hengage] at h
    dsimp only at h
    rw [orUndo_run] at h
    match hpin : (pinBuffer r).run.run a₁ with
    | (.ok (), a₂) =>
      rw [hpin] at h
      cases h
    | (.error e, a₂) =>
      rw [hpin] at h
      obtain ⟨rfl, -⟩ := pinBuffer_refused hpin
      cases h
      exact .inr ⟨engaged, _, rfl, hpin, by cases engaged <;> rfl⟩

/-- The ways in which the tracer and the buffer can be refused, by the failure and the state after
it. -/
inductive RefusalCase (r : Request) (a : Arbiter Simulation) :
    SetupFailure → Arbiter Simulation → Prop
  /-- There is no tracer to share, and what was done is undone. -/
  | undone (failure : SetupFailure) (a' : Arbiter Simulation)
      (hidle : a.installed.functionGraph = false) (hinstalled : a'.installed = a.installed)
      (hfiles : a.facility.KeepsOrRests a'.facility) : RefusalCase r a failure a'
  | filtersRefused (hwanted : r.functionGraph) (hshared : a.installed.functionGraph) :
      RefusalCase r a (.facility (.writeFailed Control.functionFilter injected)) a
  | rootsRefused (hwanted : r.functionGraph) (hshared : a.installed.functionGraph) :
      RefusalCase r a (.facility (.writeFailed Control.graphFilter injected))
        { a with facility := a.facility.withLines Control.functionFilter r.functionFilters }

/-- A tracer that is engaged comes with a buffer whose size is set, so sharing it cannot fail for the
buffer. -/
theorem refusal_case (hpinned : a.installed.functionGraph → a.installed.bufferPages ≠ 0)
    (h : (installTracerAndBuffer r).run.run a = (.error failure, a')) :
    RefusalCase r a failure a' := by
  obtain hengage | ⟨engaged, a₁, hengage, hpin, rfl⟩ := installTracerAndBuffer_refused h
  · cases engage_case hengage with
    | filtersRefused hwanted hshared => exact .filtersRefused hwanted hshared
    | rootsRefused hwanted hshared => exact .rootsRefused hwanted hshared
    | switchRefused _ a₁ _ hidle hswitch =>
      obtain ⟨hinstalled, hfiles⟩ := switchToFunctionGraph_undone hswitch
      exact .undone _ _ hidle hinstalled hfiles
  · obtain ⟨-, hpages⟩ := pinBuffer_refused hpin
    cases engage_case hengage with
    | unwanted =>
      exact .undone _ _ (Bool.eq_false_iff.mpr fun h => hpinned h hpages) rfl (.refl _)
    | added _ hshared => exact absurd hpages (hpinned hshared)
    | switched _ _ hidle hswitch =>
      obtain ⟨hinstalled, hfiles⟩ := disengageFunctionGraph_undone hidle hswitch
      exact .undone _ _ hidle hinstalled hfiles

theorem installTracerAndBuffer_made (h : (installTracerAndBuffer r).run.run a = (.ok (), a')) :
    ∃ engaged a₁, (engageFunctionGraph r).run.run a = (.ok engaged, a₁) ∧
      (pinBuffer r).run.run a₁ = (.ok (), a') := by
  unfold installTracerAndBuffer at h
  rw [run_bind] at h
  match hengage : (engageFunctionGraph r).run.run a with
  | (.error e, a₁) =>
    rw [hengage] at h
    cases h
  | (.ok engaged, a₁) =>
    rw [hengage] at h
    dsimp only at h
    rw [orUndo_run] at h
    match hpin : (pinBuffer r).run.run a₁ with
    | (.error e, a₂) =>
      rw [hpin] at h
      cases h
    | (.ok (), a₂) =>
      rw [hpin] at h
      cases h
      exact ⟨engaged, a₁, rfl, hpin⟩

/-! ### Resetting -/

/-- The state once the idle tracer is back and the filters are still in place. -/
def idled (a : Arbiter Simulation) : Arbiter Simulation :=
  { a with
    facility := a.facility.written Control.currentTracer Control.idleTracer Control.idleTracer
    installed := { a.installed with functionGraph := false } }

/-- A reset that cannot drop the filters has put the idle tracer back all the same. -/
theorem resetTracer_run (a : Arbiter Simulation) :
    resetTracer.run a =
      if a.installed.functionGraph = false then (true, a)
      else if Control.currentTracer ∈ a.facility.failingWrites then (false, a)
      else if Control.functionFilter ∈ a.facility.failingWrites then (false, a.idled)
      else if Control.graphFilter ∈ a.facility.failingWrites then
        (false, { a.idled with facility := a.idled.facility.emptied Control.functionFilter })
      else (true, { a.idled with
        facility := (a.idled.facility.emptied Control.functionFilter).emptied
          Control.graphFilter }) := by
  have hwrite : (Control.resetTracer : Access Simulation Unit).run.run a.facility = _ :=
    write_run _ Control.idleTracer (by decide) (by decide)
  unfold resetTracer
  rw [state_get_bind]
  by_cases hidle : a.installed.functionGraph = false
  · rw [if_pos hidle, if_pos (by simp [hidle])]
    rfl
  rw [if_neg hidle, if_neg (by simpa using hidle), state_bind, access_run, hwrite]
  by_cases htracer : Control.currentTracer ∈ a.facility.failingWrites
  · rw [if_pos htracer, if_pos htracer]
    rfl
  rw [if_neg htracer, if_neg htracer]
  dsimp only
  rw [state_bind, state_modify, state_bind, access_run]
  dsimp only [note]
  rw [dropFilters_run, failingWrites_written]
  by_cases hfunction : Control.functionFilter ∈ a.facility.failingWrites
  · rw [if_pos hfunction, if_pos hfunction]
    rfl
  rw [if_neg hfunction, if_neg hfunction]
  by_cases hgraph : Control.graphFilter ∈ a.facility.failingWrites
  · rw [if_pos hgraph, if_pos hgraph]
    rfl
  · rw [if_neg hgraph, if_neg hgraph]
    rfl

/-- A reset that works finds nothing to do or leaves the files of the tracer as in a facility that
nobody uses. -/
theorem resetTracer_works (h : resetTracer.run a = (true, a')) :
    a' = a ∧ a.installed.functionGraph = false ∨
      a.installed.functionGraph ∧ a'.installed.functionGraph = false ∧
        ∀ path ∈ Control.tracerFiles, a'.facility.value? path = idle.value? path := by
  rw [resetTracer_run] at h
  split at h
  · next hidle =>
    cases h
    exact .inl ⟨rfl, hidle⟩
  next hengaged =>
  split at h
  · cases h
  split at h
  · cases h
  split at h
  · cases h
  cases h
  refine .inr ⟨by simpa using hengaged, rfl, fun path hpath => ?_⟩
  dsimp only
  rw [value?_emptied, value?_emptied, idled, value?_written]
  obtain rfl | rfl | rfl : path = Control.currentTracer ∨ path = Control.functionFilter ∨
      path = Control.graphFilter := by
    simpa [Control.tracerFiles] using hpath
  · rw [if_neg (by decide), if_neg (by decide), if_pos rfl]
    decide +kernel
  · rw [if_neg (by decide), if_pos rfl]
    decide +kernel
  · rw [if_pos rfl]
    decide +kernel

/-! ### The writes that a reset is refused -/

/-- The file that a reset is refused to write, if any. It writes the files of the tracer in turn. -/
def resetRefusal? (a : Arbiter Simulation) : Option String :=
  if a.installed.functionGraph = false then none
  else Control.tracerFiles.find? (· ∈ a.facility.failingWrites)

theorem resetTracer_watched (a : Arbiter Simulation) (refused : List String) :
    resetTracer.run (a.watched refused) =
      ((resetTracer.run a).1, (resetTracer.run a).2.watched (refused ++ a.resetRefusal?.toList)) := by
  have hwrite : (Control.resetTracer : Access (Watched Simulation) Unit).run.run
      (a.watched refused).facility = _ :=
    Watched.write_run a.facility refused Control.idleTracer (by decide) (by decide)
  rw [resetTracer_run, resetRefusal?, Control.tracerFiles]
  unfold resetTracer
  rw [state_get_bind, watched_installed]
  by_cases hidle : a.installed.functionGraph = false
  · simp only [if_pos hidle, Option.toList_none, List.append_nil]
    rw [if_pos (by simp [hidle])]
    rfl
  simp only [if_neg hidle]
  rw [if_neg (by simpa using hidle), state_bind, access_run, hwrite]
  by_cases htracer : Control.currentTracer ∈ a.facility.failingWrites
  · simp only [if_pos htracer]
    rw [List.find?_cons_of_pos (by simpa using htracer)]
    rfl
  simp only [if_neg htracer]
  rw [List.find?_cons_of_neg (by simpa using htracer), state_bind, state_modify, state_bind,
    access_run]
  dsimp only [note]
  rw [dropFilters_watched, failingWrites_written]
  by_cases hfunction : Control.functionFilter ∈ a.facility.failingWrites
  · simp only [if_pos hfunction]
    rw [List.find?_cons_of_pos (by simpa using hfunction)]
    rfl
  simp only [if_neg hfunction]
  rw [List.find?_cons_of_neg (by simpa using hfunction)]
  by_cases hgraph : Control.graphFilter ∈ a.facility.failingWrites
  · simp only [if_pos hgraph]
    rw [List.find?_cons_of_pos (by simpa using hgraph)]
    rfl
  · simp only [if_neg hgraph]
    rw [List.find?_cons_of_neg (by simpa using hgraph), List.find?_nil, Option.toList_none,
      List.append_nil]
    rfl

theorem refusedWrites_resetTracer (a : Arbiter Simulation) :
    refusedWrites resetTracer a = a.resetRefusal?.toList := by
  unfold refusedWrites
  rw [resetTracer_watched]
  rfl

theorem resetTracer_of_not_refused (h : refusedWrites resetTracer a = []) :
    (resetTracer.run a).1 = true := by
  rw [refusedWrites_resetTracer, Option.toList_eq_nil_iff] at h
  rw [resetTracer_run]
  by_cases hidle : a.installed.functionGraph = false
  · rw [if_pos hidle]
  rw [resetRefusal?, if_neg hidle, List.find?_eq_none] at h
  have htaken : ∀ path ∈ Control.tracerFiles, path ∉ a.facility.failingWrites := by simpa using h
  rw [if_neg hidle, if_neg (htaken _ (by decide)), if_neg (htaken _ (by decide)),
    if_neg (htaken _ (by decide))]

end Arbiter

end TraceArbiter
