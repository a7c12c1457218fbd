import TraceArbiter.Proofs.Annotation.Steps
import TraceArbiter.Proofs.Arbiter.Translation

/-!
# Steps that do not see annotations

Two arbiters that differ in their annotations only, or in who holds them, go the same way until they
come to join or shrink them. Erasing everything about annotations therefore commutes with all other
parts of a setup: what such a part gives is the same after erasing, and so is the state that it leaves
apart from what was erased. Main statement: two setups of one request that differ in annotations only
give the same id, register the same session and report the same but for annotations.
-/

namespace TraceArbiter

open Std

/-! ### Accesses -/

namespace Simulation

/-- A facility whose annotations nobody has started and nobody holds. -/
def withoutAnnotations (s : Simulation) : Simulation :=
  { s with annotations := none, annotationStarts := 0, externalAgent := false }

theorem stored_withoutAnnotations (s : Simulation) (path value : String) :
    s.withoutAnnotations.stored path value = (s.stored path value).map withoutAnnotations := by
  unfold stored
  split
  · rfl
  split
  · dsimp only
    change (if (Clock.available ((s.value? Control.traceClock).getD "")).contains value then _
      else _) = _
    split <;> rfl
  · rfl

end Simulation

namespace Access

/-- What the access gives and does is the same when annotations are erased before and after it. -/
def Oblivious {α : Type} (m : Access Simulation α) : Prop :=
  ∀ s, m.run.run s.withoutAnnotations = ((m.run.run s).1, (m.run.run s).2.withoutAnnotations)

theorem Oblivious.write (path value : String) : Oblivious (Facility.write path value) := by
  intro s
  rw [s.withoutAnnotations.write_run_stored, s.write_run_stored, s.stored_withoutAnnotations]
  change (if path ∈ s.failingWrites then _ else _) = _
  split
  · rfl
  · cases s.stored path value <;> rfl

theorem Oblivious.append (path value : String) : Oblivious (Facility.append path value) := by
  intro s
  rw [s.withoutAnnotations.append_run, s.append_run]
  change (if path ∈ s.failingWrites then _ else _) = _
  split <;> rfl

end Access

/-- Erasing annotations is a translation of simulated facilities to themselves. -/
def Translation.withoutAnnotations : Translation Unit Simulation Simulation where
  facility := fun _ => Simulation.withoutAnnotations
  annotationsOn := fun _ => false
  names := fun _ => []

theorem Translation.faithful_withoutAnnotations : Translation.withoutAnnotations.Faithful where
  write := fun path value => .of_run_eq fun s _ => Access.Oblivious.write path value s
  append := fun path value => .of_run_eq fun s _ => Access.Oblivious.append path value s
  read := fun _ _ _ => rfl

/-! ### Steps of the arbiter -/

namespace Arbiter

def withoutAnnotations (a : Arbiter Simulation) : Arbiter Simulation :=
  { a with
    facility := a.facility.withoutAnnotations
    installed := a.installed.withoutAnnotations }

/-- What the step gives and does is the same when annotations are erased before and after it. -/
def Oblivious {α : Type} (m : ArbiterM Simulation α) : Prop :=
  ∀ a, m.run a.withoutAnnotations = ((m.run a).1, (m.run a).2.withoutAnnotations)

namespace Oblivious

open Translation

theorem of_translates {α : Type} {m : ArbiterM Simulation α} (h : Translates .withoutAnnotations m m) :
    Oblivious m :=
  fun a => h.run_eq a ()

theorem preflight (r : Request) : Oblivious (preflight r).run :=
  .of_translates (faithful_withoutAnnotations.preflight r)

theorem installEssentials (r : Request) (filter : SyscallFilter) :
    Oblivious (installEssentials r filter).run :=
  .of_translates (faithful_withoutAnnotations.installEssentials r filter)

theorem beforeJoining (r : Request) (events : List Event) :
    Oblivious (beforeJoining r events) :=
  .of_translates (faithful_withoutAnnotations.beforeJoining r events)

end Oblivious

/-! ### Whole setups -/

/-- Of the second state, annotations have changed at most. -/
def SameButAnnotations (a a' : Arbiter Simulation) : Prop :=
  a'.withoutAnnotations = a.withoutAnnotations

instance : Std.Refl SameButAnnotations :=
  ⟨fun _ => rfl⟩

instance : IsTrans (Arbiter Simulation) SameButAnnotations :=
  ⟨fun _ _ _ h h' => h'.trans h⟩

theorem sameButAnnotations_joinAnnotations (r : Request) :
    Relates SameButAnnotations (joinAnnotations r) := by
  refine .joinAnnotations (fun apps categories a => ?_) (fun change hchange a => ?_) r
  · rw [access_run, Simulation.startAnnotations_run]
    cases hfailure : a.facility.annotationFailure <;> rfl
  · unfold SameButAnnotations withoutAnnotations
    rw [state_modify]
    unfold Arbiter.note
    dsimp only
    rw [hchange]

/-- What a setup gives and leaves, apart from annotations and the errors about them. -/
def apartFromAnnotations (done : (SessionId × SetupReport) × Arbiter Simulation) :
    (SessionId × SetupReport) × Arbiter Simulation :=
  ((done.1.1, { done.1.2 with annotationErrors := [] }), done.2.withoutAnnotations)

/-- Completing a setup comes to the same names and, apart from annotations, to the same state. -/
theorem completeSetup_withoutAnnotations (r : Request) (id : SessionId) (plan : Plan)
    (a : Arbiter Simulation) :
    ((completeSetup r id plan).run a.withoutAnnotations).1.1 =
        ((completeSetup r id plan).run a).1.1 ∧
      ((completeSetup r id plan).run a.withoutAnnotations).2.withoutAnnotations =
        ((completeSetup r id plan).run a).2.withoutAnnotations := by
  have hrun : ∀ b, (completeSetup r id plan).run b =
      let enabled := (beforeJoining (σ := Simulation) r plan.events).run b
      let joined := (joinAnnotations r).run enabled.2
      let config := joined.2.configFor r enabled.1.1 plan.syscallFilter
      ((enabled.1.2.map (toString ·.fullName), joined.1), ((register id config).run joined.2).2) :=
    fun _ => rfl
  -- Registering a session neither looks at annotations nor changes them.
  have hregister : ∀ (b : Arbiter Simulation) (granted : EventFilter),
      ((register id (b.configFor r granted plan.syscallFilter)).run b).2.withoutAnnotations =
        ((register id (b.withoutAnnotations.configFor r granted plan.syscallFilter)).run
          b.withoutAnnotations).2 :=
    fun _ _ => rfl
  rw [hrun, hrun, Oblivious.beforeJoining]
  refine ⟨rfl, ?_⟩
  dsimp only
  rw [hregister, hregister, sameButAnnotations_joinAnnotations r _,
    sameButAnnotations_joinAnnotations r _]
  rfl

/-- Setups of one request that differ in annotations come to the same apart from annotations. -/
theorem setup_withoutAnnotations (r : Request) (report : SetupReport) (a : Arbiter Simulation) :
    apartFromAnnotations ((setup r report).run a.withoutAnnotations) =
      apartFromAnnotations ((setup r report).run a) := by
  rw [setup_run, setup_run, Oblivious.preflight r a]
  match (preflight r).run.run a with
  | (.error failure, a') => rfl
  | (.ok id, a') =>
    dsimp only
    rw [show a'.withoutAnnotations.catalog = a'.catalog from rfl,
      Oblivious.installEssentials r _ a']
    match (installEssentials r (r.plan a'.catalog).syscallFilter).run.run a' with
    | (.error failure, a₁) => rfl
    | (.ok (), a₁) =>
      obtain ⟨hnames, hstate⟩ := completeSetup_withoutAnnotations r id (r.plan a'.catalog) a₁
      unfold apartFromAnnotations
      dsimp only
      rw [hnames, hstate]

end Arbiter

end TraceArbiter
