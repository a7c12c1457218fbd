import TraceArbiter.Proofs.Facility.Log
import TraceArbiter.Proofs.Tracer.Stages

/-!
# Sharing the tracer

A setup that finds the function graph tracer engaged leaves the tracer alone, and the filters of the
sessions that share it keep what they hold: lines are added behind, and each line that was logged is
one that was added.
-/

namespace TraceArbiter

open Std

namespace Simulation

variable {s s' s'' t : Simulation} {path file : String} {lines : List String}

/-- What was logged for the file are lines that were added to it, and nothing else happened to it. -/
def AppendsOnly (file : String) (s s' : Simulation) : Prop :=
  ∃ lines, s'.writesTo file = s.writesTo file ++ lines ∧
    s'.value? file = (s.withLines file lines).value? file

theorem value?_withLines_congr (h : s.value? file = t.value? file) :
    (s.withLines file lines).value? file = (t.withLines file lines).value? file := by
  induction lines generalizing s t with
  | nil => exact h
  | cons line lines ih =>
    apply ih
    rw [value?_written, value?_written, h]

theorem withLines_append (lines lines' : List String) :
    s.withLines file (lines ++ lines') = (s.withLines file lines).withLines file lines' :=
  List.foldl_append

theorem writesTo_withLines :
    (s.withLines file lines).writesTo file = s.writesTo file ++ lines := by
  induction lines generalizing s with
  | nil => exact (List.append_nil _).symm
  | cons line lines ih =>
    refine ih.trans ?_
    rw [writesTo_written, if_pos rfl, List.append_assoc, List.singleton_append]

theorem writesOnly_withLines : s.WritesOnly (· = path) (s.withLines path lines) := by
  induction lines generalizing s with
  | nil => exact .refl _ s
  | cons line lines ih =>
    refine WritesOnly.trans ?_ ih
    exact .written _ line rfl

namespace AppendsOnly

theorem of_writesOnly {P : String → Prop} (h : s.WritesOnly P s') (hfile : ¬P file) :
    s.AppendsOnly file s' :=
  ⟨[], by rw [h.writesTo_eq hfile, List.append_nil], h.value?_eq file hfile⟩

theorem trans (h : s.AppendsOnly file s') (h' : s'.AppendsOnly file s'') :
    s.AppendsOnly file s'' := by
  obtain ⟨lines, hlog, hvalue⟩ := h
  obtain ⟨lines', hlog', hvalue'⟩ := h'
  refine ⟨lines ++ lines', by rw [hlog', hlog, List.append_assoc], ?_⟩
  rw [hvalue', withLines_append]
  exact value?_withLines_congr hvalue

theorem withLines (lines : List String) : s.AppendsOnly file (s.withLines path lines) := by
  by_cases h : path = file
  · subst h
    exact ⟨lines, writesTo_withLines, rfl⟩
  · exact of_writesOnly writesOnly_withLines (Ne.symm h)

end AppendsOnly

end Simulation

namespace Arbiter

open Simulation

variable {r : Request} {a : Arbiter Simulation}

/-- Once the size of the buffer is set, only the tracer is left to see to. -/
theorem installTracerAndBuffer_pinned (hpages : a.installed.bufferPages ≠ 0) :
    ((installTracerAndBuffer r).run.run a).2 = ((engageFunctionGraph r).run.run a).2 := by
  unfold installTracerAndBuffer
  rw [run_bind]
  match hengage : (engageFunctionGraph r).run.run a with
  | (.error e, a₁) => rfl
  | (.ok engaged, a₁) =>
    have hframe := (framed_engageFunctionGraph r).of_run hengage
    have hpages₁ : a₁.installed.bufferPages ≠ 0 := by
      rw [hframe.belief Installed.bufferPages fun _ => rfl]
      exact hpages
    dsimp only
    rw [orUndo_run, pinBuffer_run]
    dsimp only
    rw [if_pos hpages₁]

/-- Sharing the tracer writes its filters only, and only adds to them. -/
theorem engageFunctionGraph_shared (hshared : a.installed.functionGraph) :
    a.facility.WritesOnly (· ∈ Control.filterFiles)
        ((engageFunctionGraph r).run.run a).2.facility ∧
      ∀ file, a.facility.AppendsOnly file ((engageFunctionGraph r).run.run a).2.facility := by
  have hsame : a.facility.WritesOnly (· ∈ Control.filterFiles) a.facility ∧
      ∀ file, a.facility.AppendsOnly file a.facility :=
    ⟨.refl _ _, fun file => .of_writesOnly (.refl (fun _ => False) _) id⟩
  have hlines : ∀ (s : Simulation) (path : String) (lines : List String),
      path ∈ Control.filterFiles → s.WritesOnly (· ∈ Control.filterFiles) (s.withLines path lines) :=
    fun s path lines hpath => writesOnly_withLines.mono fun _ h => h ▸ hpath
  match hrun : (engageFunctionGraph r).run.run a with
  | (result, a') =>
    cases engage_case hrun with
    | unwanted => exact hsame
    | filtersRefused => exact hsame
    | rootsRefused => exact ⟨hlines _ _ _ (by decide), fun file => .withLines _⟩
    | added =>
      exact ⟨(hlines _ _ _ (by decide)).trans (hlines _ _ _ (by decide)),
        fun file => (AppendsOnly.withLines _).trans (.withLines _)⟩
    | switchRefused _ _ _ hidle =>
      rw [hshared] at hidle
      cases hidle
    | switched _ _ hidle =>
      rw [hshared] at hidle
      cases hidle

end Arbiter

end TraceArbiter
