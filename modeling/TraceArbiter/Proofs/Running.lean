import TraceArbiter.Arbiter.Basic

/-!
# Running steps

What it comes to to run a step of the arbiter or an access to the facility. A step that may fail
carries its state on whether it fails or not, so a failed step still has a state after it; every
statement about what a failure leaves behind rests on `run_bind`.
-/

namespace TraceArbiter

variable {ε σ α β : Type}

/-! ### Steps that may fail -/

theorem run_bind (m : ExceptT ε (StateM σ) α) (f : α → ExceptT ε (StateM σ) β) (s : σ) :
    (m >>= f).run.run s = match m.run.run s with
      | (.ok x, s') => (f x).run.run s'
      | (.error e, s') => (.error e, s') := by
  change (ExceptT.bindCont f (m.run.run s).1).run (m.run.run s).2 = _
  obtain ⟨result, s'⟩ := m.run.run s
  cases result <;> rfl

theorem run_bind_ok {m : ExceptT ε (StateM σ) α} {f : α → ExceptT ε (StateM σ) β} {s s' : σ} {x : α}
    (h : m.run.run s = (.ok x, s')) : (m >>= f).run.run s = (f x).run.run s' := by
  rw [run_bind, h]

theorem run_bind_error {m : ExceptT ε (StateM σ) α} {f : α → ExceptT ε (StateM σ) β} {s s' : σ}
    {e : ε} (h : m.run.run s = (.error e, s')) : (m >>= f).run.run s = (.error e, s') := by
  rw [run_bind, h]

@[simp]
theorem run_get_bind (f : σ → ExceptT ε (StateM σ) β) (s : σ) :
    (get >>= f).run.run s = (f s).run.run s := rfl

/-! ### Steps that always go on -/

theorem state_bind (m : StateM σ α) (f : α → StateM σ β) (s : σ) :
    (m >>= f).run s = (f (m.run s).1).run (m.run s).2 := rfl

@[simp]
theorem state_modify (f : σ → σ) (s : σ) : (modify f : StateM σ PUnit).run s = ((), f s) := rfl

@[simp]
theorem state_get_bind (f : σ → StateM σ β) (s : σ) : (get >>= f).run s = (f s).run s := rfl

namespace Arbiter

/-! ### Accesses by the arbiter -/

theorem access_run (m : Access σ α) (a : Arbiter σ) :
    (access m).run a =
      ((m.run.run a.facility).1, { a with facility := (m.run.run a.facility).2 }) := rfl

theorem require_run (m : Access σ α) (a : Arbiter σ) :
    (require m).run.run a = match m.run.run a.facility with
      | (.ok x, s) => (.ok x, { a with facility := s })
      | (.error e, s) => (.error (.facility e), { a with facility := s }) := by
  have haccess : ((access m : ArbiterM σ _) : Essential σ _).run.run a =
      (.ok (m.run.run a.facility).1, { a with facility := (m.run.run a.facility).2 }) := rfl
  unfold require
  rw [run_bind_ok haccess]
  obtain ⟨result, s⟩ := m.run.run a.facility
  cases result <;> rfl

theorem requireRead_run (read : σ → Except FacilityError α) (a : Arbiter σ) :
    (requireRead read).run.run a = match read a.facility with
      | .ok x => (.ok x, a)
      | .error e => (.error (.facility e), a) := by
  unfold requireRead
  rw [run_get_bind]
  cases read a.facility <;> rfl

theorem orUndo_run (step : Essential σ α) (undo : ArbiterM σ Unit) (a : Arbiter σ) :
    (orUndo step undo).run.run a = match step.run.run a with
      | (.ok x, a') => (.ok x, a')
      | (.error e, a') => (.error e, (undo.run a').2) := rfl

end Arbiter

end TraceArbiter
