import Mathlib.Order.Defs.Unbundled
import TraceArbiter.Proofs.Running

/-!
# Steps that go along with each other

Two steps run side by side, one from a state and the other from a view of that state. The view is taken
by a mark, and the run may move the mark along a preorder, as when files are noted on the way. It is
enough to look at single accesses and at single changes of the state, since the relation goes through
the constructs that steps are written with.
-/

namespace TraceArbiter

variable {μ ε S T α β γ : Type} {view : μ → S → T} {R : μ → μ → Prop}

/-- From the view of a state the first step gives what the second one gives from the state, and it leaves
a view of what the second one leaves. -/
def Follows (view : μ → S → T) (R : μ → μ → Prop) (m : StateM T α) (n : StateM S α) : Prop :=
  ∀ s mark, ∃ mark', R mark mark' ∧ m.run (view mark s) = ((n.run s).1, view mark' (n.run s).2)

namespace Follows

/-- Where marks stay, the view is that of the same mark. -/
theorem run_eq {m : StateM T α} {n : StateM S α} (h : Follows view Eq m n) (s : S) (mark : μ) :
    m.run (view mark s) = ((n.run s).1, view mark (n.run s).2) := by
  obtain ⟨_, rfl, hrun⟩ := h s mark
  exact hrun

theorem get_bind {f : T → StateM T β} {g : S → StateM S β}
    (hf : ∀ s mark, Follows view R (f (view mark s)) (g s)) : Follows view R (get >>= f) (get >>= g) :=
  fun s mark => hf s mark s mark

theorem ite {c : Prop} [Decidable c] {m m' : StateM T α} {n n' : StateM S α}
    (h : Follows view R m n) (h' : Follows view R m' n') :
    Follows view R (if c then m else m') (if c then n else n') := by
  split
  · exact h
  · exact h'

section Reflexive

variable [Std.Refl R]

theorem of_run_eq {m : StateM T α} {n : StateM S α}
    (h : ∀ s mark, m.run (view mark s) = ((n.run s).1, view mark (n.run s).2)) : Follows view R m n :=
  fun s mark => ⟨mark, Std.Refl.refl mark, h s mark⟩

theorem pure (x : α) : Follows view R (Pure.pure x) (Pure.pure x) :=
  .of_run_eq fun _ _ => rfl

theorem changed {change : T → T} {change' : S → S}
    (h : ∀ s mark, change (view mark s) = view mark (change' s)) :
    Follows view R (modify change) (modify change') :=
  .of_run_eq fun s mark => by rw [state_modify, state_modify, h]

end Reflexive

theorem bind [IsTrans μ R] {m : StateM T α} {n : StateM S α} {f : α → StateM T β} {g : α → StateM S β}
    (hm : Follows view R m n) (hf : ∀ x, Follows view R (f x) (g x)) :
    Follows view R (m >>= f) (n >>= g) := by
  intro s mark
  obtain ⟨mark₁, hmark₁, hrun⟩ := hm s mark
  obtain ⟨mark₂, hmark₂, hrest⟩ := hf (n.run s).1 (n.run s).2 mark₁
  refine ⟨mark₂, IsTrans.trans _ _ _ hmark₁ hmark₂, ?_⟩
  rw [state_bind, state_bind, hrun]
  exact hrest

/-! ### Steps that may fail -/

theorem except_get_bind {f : T → ExceptT ε (StateM T) β} {g : S → ExceptT ε (StateM S) β}
    (hf : ∀ s mark, Follows view R (f (view mark s)).run (g s).run) :
    Follows view R (get >>= f).run (get >>= g).run :=
  fun s mark => hf s mark s mark

theorem except_ite {c : Prop} [Decidable c] {m m' : ExceptT ε (StateM T) α}
    {n n' : ExceptT ε (StateM S) α} (h : Follows view R m.run n.run)
    (h' : Follows view R m'.run n'.run) :
    Follows view R (if c then m else m').run (if c then n else n').run :=
  .ite h h'

section Reflexive

variable [Std.Refl R]

theorem except_pure (x : α) :
    Follows view R (Pure.pure x : ExceptT ε (StateM T) α).run
      (Pure.pure x : ExceptT ε (StateM S) α).run :=
  .pure (Except.ok x)

theorem except_throw (e : ε) :
    Follows view R (throw e : ExceptT ε (StateM T) α).run (throw e : ExceptT ε (StateM S) α).run :=
  .pure (Except.error e)

end Reflexive

theorem except_bind [Std.Refl R] [IsTrans μ R] {m : ExceptT ε (StateM T) α}
    {n : ExceptT ε (StateM S) α} {f : α → ExceptT ε (StateM T) β} {g : α → ExceptT ε (StateM S) β}
    (hm : Follows view R m.run n.run) (hf : ∀ x, Follows view R (f x).run (g x).run) :
    Follows view R (m >>= f).run (n >>= g).run := by
  rw [ExceptT.run_bind, ExceptT.run_bind]
  refine .bind hm ?_
  rintro (e | x)
  · exact .pure (Except.error e)
  · exact hf x

theorem forEach [Std.Refl R] [IsTrans μ R] {access : γ → Access T Unit} {access' : γ → Access S Unit}
    (h : ∀ x, Follows view R (access x).run (access' x).run) (items : List γ) :
    Follows view R (Control.forEach access items).run (Control.forEach access' items).run := by
  induction items with
  | nil => exact .except_pure ()
  | cons x items ih => exact .except_bind (h x) fun _ => ih

end Follows

end TraceArbiter
