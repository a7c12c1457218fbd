import TraceArbiter.Proofs.Arbiter.Bounds
import TraceArbiter.Proofs.Facility.Watched

/-!
# Writes for the function graph tracer

What is written to the filters of the function graph tracer, and what it takes to leave them as they
were. Lines go to one file one after the other, and as the refusal of a write depends on its file
only, either all of them are added or none.
-/

namespace TraceArbiter

open Std

namespace Control

/-- The files that say which functions are traced. -/
def filterFiles : List String :=
  [functionFilter, graphFilter]

end Control

namespace Simulation

variable {s s' : Simulation} {path file content line : String} {lines : List String}

/-! ### Lines -/

theorem length_lt_withLine (h : ¬(content = "" ∧ line = "")) :
    content.length < (withLine content line).length := by
  unfold withLine
  by_cases hcontent : content = ""
  · have hline : line.length ≠ 0 := fun hlength =>
      h ⟨hcontent, String.length_eq_zero_iff.mp hlength⟩
    subst hcontent
    simp
    omega
  · have hbreak : "\n".length = 1 := rfl
    simp [hcontent]
    omega

theorem length_le_foldl_withLine (content : String) (lines : List String) :
    content.length ≤ (lines.foldl withLine content).length := by
  induction lines generalizing content with
  | nil => exact Nat.le_refl _
  | cons line lines ih =>
    refine Nat.le_trans ?_ (ih (withLine content line))
    by_cases h : content = "" ∧ line = ""
    · obtain ⟨rfl, rfl⟩ := h
      exact Nat.le_refl _
    · exact Nat.le_of_lt (length_lt_withLine h)

/-- Only empty lines in an empty file go unnoticed. -/
theorem foldl_withLine_eq_iff :
    lines.foldl withLine content = content ↔ ∀ line ∈ lines, content = "" ∧ line = "" := by
  induction lines with
  | nil => simp
  | cons line lines ih =>
    rw [List.foldl_cons, List.forall_mem_cons]
    by_cases h : content = "" ∧ line = ""
    · obtain ⟨rfl, rfl⟩ := h
      rw [show withLine "" "" = "" from rfl, ih]
      simp
    · refine iff_of_false (fun heq => ?_) fun hall => h hall.1
      have hlt := length_lt_withLine h
      have hle := length_le_foldl_withLine (withLine content line) lines
      rw [heq] at hle
      omega

/-- The facility after lines have been added to a file one by one. -/
def withLines (s : Simulation) (path : String) (lines : List String) : Simulation :=
  lines.foldl (fun s line => s.written path (withLine ((s.value? path).getD "") line) line) s

@[simp]
theorem failingWrites_withLines : (s.withLines path lines).failingWrites = s.failingWrites := by
  induction lines generalizing s with
  | nil => rfl
  | cons line lines ih => exact ih

theorem value?_withLines_of_ne (h : path ≠ file) :
    (s.withLines path lines).value? file = s.value? file := by
  induction lines generalizing s with
  | nil => rfl
  | cons line lines ih =>
    refine ih.trans ?_
    rw [value?_written, if_neg h]

theorem value?_withLines (hcontent : s.value? path = some content) :
    (s.withLines path lines).value? path = some (lines.foldl withLine content) := by
  induction lines generalizing s content with
  | nil => exact hcontent
  | cons line lines ih =>
    refine ih ?_
    rw [value?_written, if_pos rfl, hcontent, Option.getD_some]

theorem appendAll_run (s : Simulation) (path : String) (lines : List String) :
    (Control.forEach (Facility.append path) lines : Access Simulation Unit).run.run s =
      if lines ≠ [] ∧ path ∈ s.failingWrites then (.error (.writeFailed path injected), s)
      else (.ok (), s.withLines path lines) := by
  induction lines generalizing s with
  | nil => rfl
  | cons line lines ih =>
    have hfirst := s.append_run path line
    unfold Control.forEach
    by_cases h : path ∈ s.failingWrites
    · rw [if_pos h] at hfirst
      rw [if_pos ⟨List.cons_ne_nil _ _, h⟩]
      exact run_bind_error hfirst
    · rw [if_neg h] at hfirst
      rw [if_neg fun hcons => h hcons.2, run_bind_ok hfirst, ih, if_neg fun hcons => h hcons.2]
      rfl

/-! ### Emptying the filters -/

theorem rests_of_mem_filterFiles (h : path ∈ Control.filterFiles) :
    path ∈ Control.tracerFiles ∧ some "" = idle.value? path := by
  revert path
  decide +kernel

def emptied (s : Simulation) (path : String) : Simulation :=
  s.written path "" ""

@[simp]
theorem value?_emptied :
    (s.emptied path).value? file = if path = file then some "" else s.value? file :=
  s.value?_written path "" "" file

@[simp]
theorem failingWrites_emptied : (s.emptied path).failingWrites = s.failingWrites := rfl

theorem dropFilters_run (s : Simulation) :
    (do Control.clearFunctionFilters; Control.clearGraphFilters : Access Simulation Unit).run.run s =
      if Control.functionFilter ∈ s.failingWrites then
        (.error (.writeFailed Control.functionFilter injected), s)
      else if Control.graphFilter ∈ s.failingWrites then
        (.error (.writeFailed Control.graphFilter injected), s.emptied Control.functionFilter)
      else (.ok (), (s.emptied Control.functionFilter).emptied Control.graphFilter) := by
  have hfunction : (Control.clearFunctionFilters : Access Simulation Unit).run.run s = _ :=
    s.write_run "" (by decide) (by decide)
  have hgraph : (Control.clearGraphFilters : Access Simulation Unit).run.run
      (s.emptied Control.functionFilter) = _ := write_run _ "" (by decide) (by decide)
  rw [failingWrites_emptied] at hgraph
  by_cases hfunctionFails : Control.functionFilter ∈ s.failingWrites
  · rw [if_pos hfunctionFails] at hfunction ⊢
    exact run_bind_error hfunction
  · rw [if_neg hfunctionFails] at hfunction ⊢
    rw [run_bind_ok hfunction]
    exact hgraph

theorem dropFilters_watched (s : Simulation) (refused : List String) :
    (do Control.clearFunctionFilters; Control.clearGraphFilters :
        Access (Watched Simulation) Unit).run.run ⟨s, refused⟩ =
      if Control.functionFilter ∈ s.failingWrites then
        (.error (.writeFailed Control.functionFilter injected),
          ⟨s, refused ++ [Control.functionFilter]⟩)
      else if Control.graphFilter ∈ s.failingWrites then
        (.error (.writeFailed Control.graphFilter injected),
          ⟨s.emptied Control.functionFilter, refused ++ [Control.graphFilter]⟩)
      else (.ok (), ⟨(s.emptied Control.functionFilter).emptied Control.graphFilter, refused⟩) := by
  have hfunction : (Control.clearFunctionFilters : Access (Watched Simulation) Unit).run.run
      ⟨s, refused⟩ = _ := Watched.write_run s refused "" (by decide) (by decide)
  have hgraph : (Control.clearGraphFilters : Access (Watched Simulation) Unit).run.run
      ⟨s.emptied Control.functionFilter, refused⟩ = _ :=
    Watched.write_run _ refused "" (by decide) (by decide)
  rw [failingWrites_emptied] at hgraph
  by_cases hfunctionFails : Control.functionFilter ∈ s.failingWrites
  · rw [if_pos hfunctionFails] at hfunction ⊢
    exact run_bind_error hfunction
  · rw [if_neg hfunctionFails] at hfunction ⊢
    rw [run_bind_ok hfunction]
    exact hgraph

/-- The facility once the filters of a request have replaced those of the function graph tracer. -/
def withFilters (s : Simulation) (r : Request) : Simulation :=
  (((s.emptied Control.functionFilter).emptied Control.graphFilter).withLines Control.functionFilter
    r.functionFilters).withLines Control.graphFilter r.functionGraphRoots

@[simp]
theorem failingWrites_withFilters (r : Request) :
    (s.withFilters r).failingWrites = s.failingWrites := by
  simp [withFilters]

theorem value?_withFilters (r : Request) (hfile : file ∉ Control.filterFiles) :
    (s.withFilters r).value? file = s.value? file := by
  have hfunction : Control.functionFilter ≠ file := by
    rintro rfl
    exact hfile (by decide)
  have hgraph : Control.graphFilter ≠ file := by
    rintro rfl
    exact hfile (by decide)
  rw [withFilters, value?_withLines_of_ne hgraph, value?_withLines_of_ne hfunction, value?_emptied,
    if_neg hgraph, value?_emptied, if_neg hfunction]

theorem value?_withFilters_functionFilter (r : Request) :
    (s.withFilters r).value? Control.functionFilter =
      some (r.functionFilters.foldl withLine "") := by
  rw [withFilters, value?_withLines_of_ne (by decide)]
  refine value?_withLines ?_
  rw [value?_emptied, if_neg (by decide), value?_emptied, if_pos rfl]

/-! ### Leaving the tracer as it was -/

/-- Each file holds what it held, or is a file of the tracer that holds what it holds in a facility
that nobody uses. -/
def KeepsOrRests (s s' : Simulation) : Prop :=
  ∀ path, s'.value? path = s.value? path ∨
    path ∈ Control.tracerFiles ∧ s'.value? path = idle.value? path

namespace KeepsOrRests

theorem refl (s : Simulation) : s.KeepsOrRests s :=
  fun _ => .inl rfl

theorem emptied (h : s.KeepsOrRests s') (hpath : path ∈ Control.filterFiles) :
    s.KeepsOrRests (s'.emptied path) := by
  intro file
  rw [value?_emptied]
  split
  · next heq =>
    subst heq
    exact .inr (rests_of_mem_filterFiles hpath)
  · exact h file

theorem dropped (h : ∀ file ∉ Control.filterFiles, s'.value? file = s.value? file ∨
      file ∈ Control.tracerFiles ∧ s'.value? file = idle.value? file) :
    s.KeepsOrRests ((s'.emptied Control.functionFilter).emptied Control.graphFilter) := by
  intro file
  rw [value?_emptied, value?_emptied]
  split
  · next heq =>
    subst heq
    exact .inr (rests_of_mem_filterFiles (by decide))
  split
  · next heq =>
    subst heq
    exact .inr (rests_of_mem_filterFiles (by decide))
  · next hgraph hfunction =>
    refine h file ?_
    simp [Control.filterFiles, Ne.symm hgraph, Ne.symm hfunction]

end KeepsOrRests

end Simulation

end TraceArbiter
