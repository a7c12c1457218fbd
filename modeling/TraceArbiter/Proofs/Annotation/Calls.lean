import TraceArbiter.Proofs.Arbiter.Translation

/-!
# Overheard facilities

Starting and stopping annotations shows in a facility only by what is recorded afterwards. An overheard
facility behaves as the facility it wraps and also notes every call that starts or stops annotations,
whether it succeeds or not. No part of an operation calls for annotations except the part that joins or
shrinks them, so the calls of a whole setup or removal are those of that part.
-/

namespace TraceArbiter

variable {σ α β : Type}

inductive AnnotationCall where
  | start (apps categories : List String)
  | stop
  deriving DecidableEq

structure Overheard (σ : Type) where
  facility : σ
  /-- Oldest first. -/
  calls : List AnnotationCall := []

namespace Overheard

def lift (m : Access σ α) : Access (Overheard σ) α := fun o =>
  ((m.run.run o.facility).1, { o with facility := (m.run.run o.facility).2 })

/-- Passes a call on, and notes it. -/
def overhear (call : AnnotationCall) (m : Access σ α) : Access (Overheard σ) α := fun o =>
  ((m.run.run o.facility).1, ⟨(m.run.run o.facility).2, o.calls ++ [call]⟩)

instance [Facility σ] : Facility (Overheard σ) where
  write path value := lift (Facility.write path value)
  append path value := lift (Facility.append path value)
  read o path := Facility.read o.facility path
  externalAgentActive o := Facility.externalAgentActive o.facility
  startAnnotations apps categories :=
    overhear (.start apps categories) (Facility.startAnnotations apps categories)
  stopAnnotations := overhear .stop Facility.stopAnnotations

end Overheard

/-- Takes a facility to the same facility with some calls noted, to which nothing is added. -/
def Translation.overheard : Translation (List AnnotationCall) σ (Overheard σ) where
  facility := fun calls s => ⟨s, calls⟩

theorem Translation.faithful_overheard [Facility σ] : (Translation.overheard (σ := σ)).Faithful where
  write := fun _ _ => .of_run_eq fun _ _ => rfl
  append := fun _ _ => .of_run_eq fun _ _ => rfl
  read := fun _ _ _ => rfl

namespace Arbiter

variable {a : Arbiter σ} {noted noted' : List AnnotationCall}

def overheard (a : Arbiter σ) (calls : List AnnotationCall) : Arbiter (Overheard σ) :=
  Translation.overheard.arbiter calls a

/-- The calls that start or stop annotations while the operation runs. -/
def annotationCalls (m : ArbiterM (Overheard σ) α) (a : Arbiter σ) : List AnnotationCall :=
  (m.run (a.overheard [])).2.facility.calls

/-- Over the overheard facility the operation does what it does over the facility itself, and makes
the calls. -/
def MakesCalls (m : ArbiterM (Overheard σ) α) (n : ArbiterM σ α) (a : Arbiter σ)
    (noted : List AnnotationCall) : Prop :=
  ∀ calls, m.run (a.overheard calls) = ((n.run a).1, (n.run a).2.overheard (calls ++ noted))

namespace MakesCalls

theorem annotationCalls_eq {m : ArbiterM (Overheard σ) α} {n : ArbiterM σ α}
    (h : MakesCalls m n a noted) : annotationCalls m a = noted :=
  congrArg (·.2.facility.calls) (h [])

theorem of_translates {m : ArbiterM (Overheard σ) α} {n : ArbiterM σ α}
    (h : Translates .overheard m n) (a : Arbiter σ) : MakesCalls m n a [] := by
  intro calls
  rw [List.append_nil]
  exact h.run_eq a calls

theorem pure (x : α) (a : Arbiter σ) : MakesCalls (Pure.pure x) (Pure.pure x) a [] :=
  .of_translates (.pure x) a

theorem bind {m : ArbiterM (Overheard σ) α} {n : ArbiterM σ α} {f : α → ArbiterM (Overheard σ) β}
    {g : α → ArbiterM σ β} (hm : MakesCalls m n a noted)
    (hf : MakesCalls (f (n.run a).1) (g (n.run a).1) (n.run a).2 noted') :
    MakesCalls (m >>= f) (n >>= g) a (noted ++ noted') := by
  intro calls
  rw [state_bind, state_bind, hm, ← List.append_assoc]
  exact hf _

theorem ite {c : Prop} [Decidable c] {m m' : ArbiterM (Overheard σ) α} {n n' : ArbiterM σ α}
    (h : MakesCalls m n a noted) (h' : MakesCalls m' n' a noted') :
    MakesCalls (if c then m else m') (if c then n else n') a (if c then noted else noted') := by
  split
  · exact h
  · exact h'

theorem silent_bind {m : ArbiterM (Overheard σ) α} {n : ArbiterM σ α}
    {f : α → ArbiterM (Overheard σ) β} {g : α → ArbiterM σ β}
    (hm : Translates .overheard m n)
    (hf : MakesCalls (f (n.run a).1) (g (n.run a).1) (n.run a).2 noted) :
    MakesCalls (m >>= f) (n >>= g) a noted :=
  .bind (.of_translates hm a) hf

theorem bind_silent {m : ArbiterM (Overheard σ) α} {n : ArbiterM σ α}
    {f : α → ArbiterM (Overheard σ) β} {g : α → ArbiterM σ β} (hm : MakesCalls m n a noted)
    (hf : ∀ x, Translates .overheard (f x) (g x)) :
    MakesCalls (m >>= f) (n >>= g) a noted := by
  have hboth := hm.bind (.of_translates (hf (n.run a).1) (n.run a).2)
  rwa [List.append_nil] at hboth

/-- An operation may look at the state as far as no calls are noted there. -/
theorem get_bind {f : Arbiter (Overheard σ) → ArbiterM (Overheard σ) β} {g : Arbiter σ → ArbiterM σ β}
    (hsame : ∀ calls, f (a.overheard calls) = f (a.overheard []))
    (hf : MakesCalls (f (a.overheard [])) (g a) a noted) :
    MakesCalls (get >>= f) (get >>= g) a noted := by
  intro calls
  rw [state_get_bind, state_get_bind, hsame]
  exact hf calls

/-! ### Whole operations -/

variable [Facility σ]

/-- A removal makes the calls that shrinking annotations makes. -/
theorem remove {id : SessionId} (hregistered : a.isRegistered id)
    (h : MakesCalls shrinkAnnotations shrinkAnnotations (a.without id) noted) :
    MakesCalls (remove id) (remove id) a noted := by
  have hfaithful := Translation.faithful_overheard (σ := σ)
  have hparts : MakesCalls
      (do shrinkAnnotations; shrinkSyscallFilter; shrinkEvents; deactivate id; Pure.pure true)
      (do shrinkAnnotations; shrinkSyscallFilter; shrinkEvents; deactivate id; Pure.pure true)
      (a.without id) noted := by
    refine h.bind_silent fun _ => .bind hfaithful.shrinkSyscallFilter fun _ => ?_
    exact .bind hfaithful.shrinkEvents fun _ => .bind (hfaithful.deactivate id) fun _ => .pure true
  intro calls
  rw [remove_run_of_registered hregistered,
    remove_run_of_registered (a := a.overheard calls) hregistered]
  exact hparts calls

/-- Completing a setup makes the calls that joining annotations makes. -/
theorem completeSetup {r : Request} {id : SessionId} {plan : Plan}
    (h : MakesCalls (joinAnnotations r) (joinAnnotations r)
      ((beforeJoining r plan.events).run a).2 noted) :
    MakesCalls (completeSetup r id plan) (completeSetup r id plan) a noted := by
  rw [completeSetup_eq, completeSetup_eq]
  refine .silent_bind (Translation.faithful_overheard.beforeJoining r _) ?_
  -- Registering a session does not come to the facility.
  exact h.bind_silent fun _ => .get_bind fun _ _ => .bind (.changed fun _ _ => rfl) fun _ => .pure _

/-- A setup that works makes the calls that joining annotations makes, in the state in which it comes
to that. -/
theorem setup {r : Request} {report : SetupReport} {id : SessionId} {a₁ : Arbiter σ}
    (hpreflight : (preflight r).run.run a = (.ok id, a))
    (hessentials : (installEssentials r (r.plan a.catalog).syscallFilter).run.run a = (.ok (), a₁))
    (h : MakesCalls (joinAnnotations r) (joinAnnotations r)
      ((beforeJoining r (r.plan a.catalog).events).run a₁).2 noted) :
    MakesCalls (setup r report) (setup r report) a noted := by
  have hfaithful := Translation.faithful_overheard (σ := σ)
  refine .silent_bind (hfaithful.preflight r) ?_
  rw [hpreflight]
  refine .get_bind (fun _ => rfl) ?_
  refine .silent_bind (hfaithful.installEssentials r _) ?_
  rw [hessentials]
  exact (MakesCalls.completeSetup h).bind_silent fun _ => .pure _

end MakesCalls

end Arbiter

end TraceArbiter
