import TraceArbiter.Proofs.Arbiter.Sessions

/-!
# Which file a failure blames

Over a simulated facility the essentials of a setup fail for one reason only: a file that they write is
among those that are made to fail. The property goes through the constructs that accesses and essential
steps are written with, which are the same for both, and so it is stated of both at once.
-/

namespace TraceArbiter

open Std

/-- The step keeps the files that fail, and fails itself only over one of them. -/
def Blames {ε σ α : Type} (failing : σ → ExtTreeSet String) (failure : String → ε)
    (m : ExceptT ε (StateM σ) α) : Prop :=
  ∀ s, failing (m.run.run s).2 = failing s ∧
    ∀ e, (m.run.run s).1 = .error e → ∃ path ∈ failing s, e = failure path

namespace Blames

variable {ε σ α β : Type} {failing : σ → ExtTreeSet String} {failure : String → ε}

theorem pure (x : α) : Blames failing failure (Pure.pure x : ExceptT ε (StateM σ) α) :=
  fun _ => ⟨rfl, nofun⟩

theorem get_bind {f : σ → ExceptT ε (StateM σ) β} (hf : ∀ s, Blames failing failure (f s)) :
    Blames failing failure (get >>= f) :=
  fun s => hf s s

theorem bind {m : ExceptT ε (StateM σ) α} {f : α → ExceptT ε (StateM σ) β}
    (hm : Blames failing failure m) (hf : ∀ x, Blames failing failure (f x)) :
    Blames failing failure (m >>= f) := by
  intro s
  have hs := hm s
  rw [run_bind]
  match hrun : m.run.run s with
  | (.ok x, s') =>
    rw [hrun] at hs
    obtain ⟨hkept, hover⟩ := hf x s'
    dsimp only at hs
    exact ⟨hkept.trans hs.1, hs.1 ▸ hover⟩
  | (.error e, s') =>
    rw [hrun] at hs
    exact ⟨hs.1, fun e' he => hs.2 e' (congrArg Except.error (Except.error.inj he))⟩

/-- Where no file fails, the step does not fail either. -/
theorem succeeds {m : ExceptT ε (StateM σ) α} (hm : Blames failing failure m) {s : σ}
    (hs : failing s = ∅) : ∃ x s', m.run.run s = (.ok x, s') := by
  match hrun : m.run.run s with
  | (.ok x, s') => exact ⟨x, s', rfl⟩
  | (.error e, s') =>
    obtain ⟨path, hpath, -⟩ := (hm s).2 e (congrArg Prod.fst hrun)
    rw [hs] at hpath
    exact absurd hpath ExtTreeSet.not_mem_empty

end Blames

/-! ### Accesses -/

abbrev Access.BlamesFile {α : Type} (m : Access Simulation α) : Prop :=
  Blames Simulation.failingWrites (.writeFailed · Simulation.injected) m

namespace Blames

theorem write {path : String} (value : String) (hall : path ≠ Control.allEvents)
    (hclock : path ≠ Control.traceClock) : Access.BlamesFile (Facility.write path value) := by
  intro s
  rw [s.write_run value hall hclock]
  split
  · next hfails => exact ⟨rfl, fun e he => ⟨path, hfails, (Except.error.inj he).symm⟩⟩
  · exact ⟨rfl, nofun⟩

theorem append (path value : String) : Access.BlamesFile (Facility.append path value) := by
  intro s
  rw [s.append_run]
  split
  · next hfails => exact ⟨rfl, fun e he => ⟨path, hfails, (Except.error.inj he).symm⟩⟩
  · exact ⟨rfl, nofun⟩

theorem forEach {α : Type} {access : α → Access Simulation Unit} (items : List α)
    (h : ∀ x ∈ items, Access.BlamesFile (access x)) :
    Access.BlamesFile (Control.forEach access items) := by
  induction items with
  | nil => exact .pure ()
  | cons x items ih => exact .bind (h x (.head _)) fun _ => ih fun y hy => h y (.tail _ hy)

theorem setSyscallFilter (expression : String) :
    Access.BlamesFile (Control.setSyscallFilter expression) := by
  refine .forEach _ fun path hpath => .write _ ?_ ?_ <;>
  · rintro rfl
    revert hpath
    decide

end Blames

/-! ### Essentials -/

abbrev Arbiter.Essential.BlamesFile {α : Type} (m : Essential Simulation α) : Prop :=
  Blames (fun a : Arbiter Simulation => a.facility.failingWrites)
    (fun path => .facility (.writeFailed path Simulation.injected)) m

namespace Blames

open Arbiter

variable {α : Type}

theorem note (change : Installed → Installed) :
    Essential.BlamesFile (modify (Arbiter.note change)) :=
  fun _ => ⟨rfl, nofun⟩

theorem require {m : Access Simulation α} (hm : Access.BlamesFile m) :
    Essential.BlamesFile (Arbiter.require m) := by
  intro a
  obtain ⟨hkept, hover⟩ := hm a.facility
  rw [require_run]
  match hrun : m.run.run a.facility with
  | (.ok x, s) =>
    rw [hrun] at hkept
    exact ⟨hkept, nofun⟩
  | (.error e, s) =>
    rw [hrun] at hkept hover
    refine ⟨hkept, fun e' he' => ?_⟩
    obtain ⟨path, hpath, rfl⟩ := hover e rfl
    exact ⟨path, hpath, (Except.error.inj he').symm⟩

theorem orUndo {step : Essential Simulation α} {undo : ArbiterM Simulation Unit}
    (hstep : Essential.BlamesFile step) {P : String → Prop} {view : Installed → Installed}
    (hundo : Framed P view undo) : Essential.BlamesFile (Arbiter.orUndo step undo) := by
  intro a
  have ha := hstep a
  rw [orUndo_run]
  match hrun : step.run.run a with
  | (.ok x, a') =>
    rw [hrun] at ha
    exact ha
  | (.error e, a') =>
    rw [hrun] at ha
    exact ⟨(hundo a').facility.failingWrites_eq.trans ha.1, ha.2⟩

end Blames

namespace Arbiter

/-! ### The essentials of a setup -/

theorem blames_installSyscallFilter (extra : SyscallFilter) :
    Essential.BlamesFile (installSyscallFilter extra) := by
  refine .get_bind fun a => ?_
  dsimp only
  split
  · exact .bind (.note _) fun _ => .pure _
  · exact .bind (.require (.setSyscallFilter _)) fun _ => .bind (.note _) fun _ => .pure _

theorem blames_addFunctionFilters (r : Request) : Essential.BlamesFile (addFunctionFilters r) :=
  .bind (.require (.forEach _ fun _ _ => .append _ _)) fun _ =>
    .require (.forEach _ fun _ _ => .append _ _)

theorem blames_switchToFunctionGraph (r : Request) :
    Essential.BlamesFile (switchToFunctionGraph r) := by
  refine .bind (.require (.write _ (by decide) (by decide))) fun _ => ?_
  refine .bind (.require (.write _ (by decide) (by decide))) fun _ => ?_
  refine .bind (blames_addFunctionFilters r) fun _ => ?_
  exact .bind (.require (.write _ (by decide) (by decide))) fun _ => .note _

theorem blames_engageFunctionGraph (r : Request) : Essential.BlamesFile (engageFunctionGraph r) := by
  unfold engageFunctionGraph
  split
  · exact .pure _
  refine .get_bind fun a => ?_
  split
  · exact .bind (blames_addFunctionFilters r) fun _ => .pure _
  · exact .bind (.orUndo (blames_switchToFunctionGraph r) framed_dropFunctionFilters) fun _ =>
      .pure _

theorem blames_pinBuffer (r : Request) : Essential.BlamesFile (pinBuffer r) := by
  refine .get_bind fun a => ?_
  split
  · exact .bind (.require (.write _ (by decide) (by decide))) fun _ => .note _
  · exact .pure _

theorem blames_installTracerAndBuffer (r : Request) :
    Essential.BlamesFile (installTracerAndBuffer r) := by
  refine .bind (blames_engageFunctionGraph r) fun engaged => ?_
  cases engaged with
  | true => exact .orUndo (blames_pinBuffer r) framed_disengageFunctionGraph
  | false =>
    have hnothing : Framed (fun _ => False) id (pure () : ArbiterM Simulation Unit) := .pure ()
    exact .orUndo (blames_pinBuffer r) hnothing

/-- Essentials that are refused blame a file that is made to fail. -/
theorem blames_installEssentials (r : Request) (filter : SyscallFilter) :
    Essential.BlamesFile (installEssentials r filter) :=
  .bind (.orUndo (blames_installSyscallFilter filter) framed_restoreSyscallFilter) fun wrote =>
    .orUndo (blames_installTracerAndBuffer r) (framed_undoFilter wrote)

end Arbiter

end TraceArbiter
