import Mathlib.Data.List.Infix
import TraceArbiter.Proofs.Arbiter.Translation
import TraceArbiter.Proofs.Facility.Writes

/-!
# Watched facilities

Whether a write was refused cannot always be told from what an operation gives, since a removal goes
on as if nothing had happened. A watched facility behaves as the facility it watches and also notes
the file of every write that is refused. The arbiter is generic in its facility, so its operations
run over a watched one as they are: forgetting the notes gives the operation on the facility itself,
and notes are never lost.
-/

namespace TraceArbiter

variable {σ α β : Type}

structure Watched (σ : Type) where
  facility : σ
  /-- The files of the writes that were refused, oldest first. -/
  refused : List String := []

namespace Watched

def lift (m : Access σ α) : Access (Watched σ) α := fun w =>
  ((m.run.run w.facility).1, { w with facility := (m.run.run w.facility).2 })

/-- Passes a write on, and notes its file if it is refused. -/
def watch (path : String) (m : Access σ α) : Access (Watched σ) α := fun w =>
  match m.run.run w.facility with
  | (.ok x, facility) => (.ok x, { w with facility })
  | (.error e, facility) => (.error e, { facility, refused := w.refused ++ [path] })

theorem watch_run (path : String) (m : Access σ α) (s : σ) (refused : List String) :
    (watch path m).run.run ⟨s, refused⟩ = match m.run.run s with
      | (.ok x, s') => (.ok x, ⟨s', refused⟩)
      | (.error e, s') => (.error e, ⟨s', refused ++ [path]⟩) := rfl

instance [Facility σ] : Facility (Watched σ) where
  write path value := watch path (Facility.write path value)
  append path value := watch path (Facility.append path value)
  read w path := Facility.read w.facility path
  externalAgentActive w := Facility.externalAgentActive w.facility
  startAnnotations apps categories := lift (Facility.startAnnotations apps categories)
  stopAnnotations := lift Facility.stopAnnotations

/-- A write to a simulated facility is noted if its file is among those that are made to fail. -/
theorem write_run (s : Simulation) (refused : List String) {path : String} (value : String)
    (hall : path ≠ Control.allEvents) (hclock : path ≠ Control.traceClock) :
    (Facility.write path value : Access (Watched Simulation) Unit).run.run ⟨s, refused⟩ =
      if path ∈ s.failingWrites then
        (.error (.writeFailed path Simulation.injected), ⟨s, refused ++ [path]⟩)
      else (.ok (), ⟨s.written path value value, refused⟩) := by
  change (watch path _).run.run ⟨s, refused⟩ = _
  rw [watch_run, s.write_run value hall hclock]
  by_cases hfails : path ∈ s.failingWrites
  · simp only [if_pos hfails]
  · simp only [if_neg hfails]

end Watched

/-- Takes a facility to the same facility watched, with some files noted. Notes are only added. -/
def Translation.watched : Translation (List String) σ (Watched σ) where
  facility := fun refused s => ⟨s, refused⟩
  moves := (· <+: ·)

namespace Watched

theorem follows_lift (m : Access σ α) : Access.Translates .watched (lift m) m :=
  .of_run_eq fun _ _ => rfl

theorem follows_watch (path : String) (m : Access σ α) :
    Access.Translates .watched (watch path m) m := by
  intro s refused
  change ∃ _, _ ∧ (watch path m).run.run ⟨s, refused⟩ = _
  rw [watch_run]
  match m.run.run s with
  | (.ok x, s') => exact ⟨refused, List.prefix_rfl, rfl⟩
  | (.error e, s') => exact ⟨refused ++ [path], List.prefix_append _ _, rfl⟩

end Watched

theorem Translation.faithful_watched [Facility σ] : (Translation.watched (σ := σ)).Faithful where
  write := fun path value => Watched.follows_watch path (Facility.write path value)
  append := fun path value => Watched.follows_watch path (Facility.append path value)
  read := fun _ _ _ => rfl

/-! ### Failures -/

/-- If the access fails, a file that `P` allows is among the notes. -/
def Access.NotesFailure (P : String → Prop) (m : Access (Watched σ) α) : Prop :=
  ∀ w e w', m.run.run w = (.error e, w') → ∃ path ∈ w'.refused, P path

namespace Access.NotesFailure

variable {P : String → Prop}

theorem pure (x : α) : NotesFailure P (Pure.pure x : Access (Watched σ) α) := by
  intro w e w' h
  cases h

theorem bind {m : Access (Watched σ) α} {f : α → Access (Watched σ) β} (hm : NotesFailure P m)
    (hf : ∀ x, NotesFailure P (f x)) : NotesFailure P (m >>= f) := by
  intro w e w' h
  rw [run_bind] at h
  match hrun : m.run.run w with
  | (.ok x, w₁) =>
    rw [hrun] at h
    exact hf x w₁ e w' h
  | (.error e₁, w₁) =>
    rw [hrun] at h
    cases h
    exact hm w _ _ hrun

theorem write [Facility σ] {path : String} (value : String) (hpath : P path) :
    NotesFailure P (Facility.write path value : Access (Watched σ) Unit) := by
  intro w e w' h
  change (Watched.watch path _).run.run ⟨w.facility, w.refused⟩ = _ at h
  rw [Watched.watch_run] at h
  split at h
  · cases h
  · cases h
    exact ⟨path, by simp, hpath⟩

theorem forEach {γ : Type} {access : γ → Access (Watched σ) Unit} (items : List γ)
    (h : ∀ x ∈ items, NotesFailure P (access x)) : NotesFailure P (Control.forEach access items) := by
  induction items with
  | nil => exact .pure ()
  | cons x items ih =>
    exact .bind (h x (.head _)) fun _ => ih fun y hy => h y (.tail _ hy)

theorem setSyscallFilter [Facility σ] (expression : String) :
    NotesFailure (· ∈ Control.syscallFilters)
      (Control.setSyscallFilter expression : Access (Watched σ) Unit) :=
  .forEach _ fun _ hpath => .write _ hpath

end Access.NotesFailure

/-! ### Steps of the arbiter -/

namespace Arbiter

def watched (a : Arbiter σ) (refused : List String) : Arbiter (Watched σ) :=
  Translation.watched.arbiter refused a

@[simp]
theorem watched_catalog (a : Arbiter σ) (refused : List String) :
    (a.watched refused).catalog = a.catalog := rfl

@[simp]
theorem watched_installed (a : Arbiter σ) (refused : List String) :
    (a.watched refused).installed = a.installed := rfl

@[simp]
theorem watched_active (a : Arbiter σ) (refused : List String) :
    (a.watched refused).active = a.active := rfl

/-- The files of the writes that are refused while the operation runs. -/
def refusedWrites (m : ArbiterM (Watched σ) α) (a : Arbiter σ) : List String :=
  (m.run (a.watched [])).2.facility.refused

/-- Over the watched facility the step does what it does over the facility itself, and notes files. -/
theorem Translates.exists_noted {m : ArbiterM (Watched σ) α} {n : ArbiterM σ α}
    (h : Translates .watched m n) (a : Arbiter σ) (refused : List String) :
    ∃ refused', refused <+: refused' ∧
      m.run (a.watched refused) = ((n.run a).1, (n.run a).2.watched refused') :=
  h a refused

end Arbiter

end TraceArbiter
