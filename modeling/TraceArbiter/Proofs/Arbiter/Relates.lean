import Mathlib.Order.Defs.Unbundled
import TraceArbiter.Proofs.Running

/-!
# Relations between states

A statement about everything that a step may do is a relation between the state before it and the
state after it, whether the step fails or not. A relation that is reflexive and transitive goes through
the constructs that steps are written with, so it is enough to look at single accesses and at single
changes of beliefs.
-/

namespace TraceArbiter.Arbiter

variable {σ α β : Type}

/-- Wherever the step starts, `T` relates the state before it to the state after it. -/
def Relates (T : Arbiter σ → Arbiter σ → Prop) (m : ArbiterM σ α) : Prop :=
  ∀ a, T a (m.run a).2

namespace Relates

variable {T : Arbiter σ → Arbiter σ → Prop}

theorem of_run {m : ArbiterM σ α} {a a' : Arbiter σ} {x : α} (hm : Relates T m)
    (h : m.run a = (x, a')) : T a a' := by
  have ha := hm a
  rw [h] at ha
  exact ha

theorem get_bind {f : Arbiter σ → ArbiterM σ β} (hf : ∀ a, Relates T (f a)) :
    Relates T (get >>= f) :=
  fun a => hf a a

/-! Of a step that may fail, the relation is one of running it. -/

theorem essential_note {change : Installed → Installed}
    (h : Relates T (modify (note change) : ArbiterM σ PUnit)) :
    Relates T (modify (note change) : Essential σ PUnit).run :=
  h

theorem essential_get_bind {f : Arbiter σ → Essential σ β} (hf : ∀ a, Relates T (f a).run) :
    Relates T (get >>= f).run :=
  fun a => hf a a

theorem require {m : Access σ α} (hm : Relates T (access m)) :
    Relates T (require m).run := by
  intro a
  have ha := hm a
  rw [access_run] at ha
  rw [require_run]
  match hrun : m.run.run a.facility with
  | (.ok x, s) | (.error e, s) =>
    rw [hrun] at ha
    exact ha

section Reflexive

variable [Std.Refl T]

theorem pure (x : α) : Relates T (Pure.pure x) :=
  Std.Refl.refl

theorem essential_pure (x : α) : Relates T (Pure.pure x : Essential σ α).run :=
  Std.Refl.refl

theorem access_pure (x : α) : Relates T (access (Pure.pure x)) :=
  Std.Refl.refl

end Reflexive

section Transitive

variable [IsTrans (Arbiter σ) T]

theorem bind {m : ArbiterM σ α} {f : α → ArbiterM σ β} (hm : Relates T m)
    (hf : ∀ x, Relates T (f x)) : Relates T (m >>= f) :=
  fun a => IsTrans.trans _ _ _ (hm a) (hf _ _)

theorem essential_bind {m : Essential σ α} {f : α → Essential σ β} (hm : Relates T m.run)
    (hf : ∀ x, Relates T (f x).run) : Relates T (m >>= f).run := by
  intro a
  have ha := hm a
  rw [run_bind]
  match hrun : m.run.run a with
  | (.ok x, a') =>
    rw [hrun] at ha
    exact IsTrans.trans _ _ _ ha (hf x a')
  | (.error e, a') =>
    rw [hrun] at ha
    exact ha

theorem orUndo {step : Essential σ α} {undo : ArbiterM σ Unit} (hstep : Relates T step.run)
    (hundo : Relates T undo) : Relates T (orUndo step undo).run := by
  intro a
  have ha := hstep a
  rw [orUndo_run]
  match hrun : step.run.run a with
  | (.ok x, a') =>
    rw [hrun] at ha
    exact ha
  | (.error e, a') =>
    rw [hrun] at ha
    exact IsTrans.trans _ _ _ ha (hundo a')

theorem access_bind {m : Access σ α} {f : α → Access σ β} (hm : Relates T (access m))
    (hf : ∀ x, Relates T (access (f x))) : Relates T (access (m >>= f)) := by
  intro a
  have ha := hm a
  rw [access_run] at ha ⊢
  rw [run_bind]
  match hrun : m.run.run a.facility with
  | (.ok x, s) =>
    rw [hrun] at ha
    exact IsTrans.trans _ _ _ ha (hf x { a with facility := s })
  | (.error e, s) =>
    rw [hrun] at ha
    exact ha

theorem access_forEach [Std.Refl T] {request : α → Access σ Unit} {items : List α}
    (h : ∀ x ∈ items, Relates T (access (request x))) :
    Relates T (access (Control.forEach request items)) := by
  induction items with
  | nil => exact .access_pure ()
  | cons x items ih =>
    exact .access_bind (h x (.head _)) fun _ => ih fun y hy => h y (.tail _ hy)

end Transitive

end Relates

end TraceArbiter.Arbiter
