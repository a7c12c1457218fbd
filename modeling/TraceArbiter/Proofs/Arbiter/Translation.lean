import TraceArbiter.Proofs.Arbiter.Stages
import TraceArbiter.Proofs.Following

/-!
# One arbiter over two facilities

The arbiter is generic in its facility, so one operation runs over different facilities as it is. A
translation takes the states of one facility to states of another, which may carry a mark besides, and
it may forget what the arbiter believes about annotations. If reads, writes and appended entries go
along with it, so does every part of an operation that does not concern annotations: over the second
facility the part gives the same, and leaves the translated state.
-/

namespace TraceArbiter

variable {μ σ τ α β : Type}

structure Translation (μ σ τ : Type) where
  facility : μ → σ → τ
  annotationsOn : Bool → Bool := id
  names : List String → List String := id
  /-- How a step may move the mark. -/
  moves : μ → μ → Prop := Eq
  preorder : IsPreorder μ moves := by infer_instance

namespace Translation

instance (φ : Translation μ σ τ) : IsPreorder μ φ.moves :=
  φ.preorder

def installed (φ : Translation μ σ τ) (i : Installed) : Installed :=
  { i with
    annotationsOn := φ.annotationsOn i.annotationsOn
    apps := φ.names i.apps
    categories := φ.names i.categories }

def arbiter (φ : Translation μ σ τ) (mark : μ) (a : Arbiter σ) : Arbiter τ where
  facility := φ.facility mark a.facility
  catalog := a.catalog
  settings := a.settings
  lastId := a.lastId
  installed := φ.installed a.installed
  sessions := a.sessions
  active := a.active

end Translation

/-- The first access goes along with the second one: from a translated state it gives the same and
leaves the translated state. -/
abbrev Access.Translates (φ : Translation μ σ τ) (m : Access τ α) (n : Access σ α) : Prop :=
  Follows φ.facility φ.moves m.run n.run

/-- Control files are read and written in the same way on both sides. -/
structure Translation.Faithful [Facility σ] [Facility τ] (φ : Translation μ σ τ) : Prop where
  write (path value : String) :
    Access.Translates φ (Facility.write path value) (Facility.write path value)
  append (path value : String) :
    Access.Translates φ (Facility.append path value) (Facility.append path value)
  read (mark : μ) (s : σ) (path : String) :
    Facility.read (φ.facility mark s) path = Facility.read s path

/-- The first step of the arbiter goes along with the second one. -/
abbrev Arbiter.Translates (φ : Translation μ σ τ) (m : ArbiterM τ α) (n : ArbiterM σ α) : Prop :=
  Follows φ.arbiter φ.moves m n

/-! ### Steps of the arbiter -/

namespace Follows

open Arbiter (Essential Translates access_run require_run requireRead_run orUndo_run)

variable {φ : Translation μ σ τ}

theorem note {change : Installed → Installed}
    (h : ∀ i, change (φ.installed i) = φ.installed (change i)) :
    Translates φ (modify (Arbiter.note change)) (modify (Arbiter.note change)) := by
  refine .changed fun a mark => ?_
  unfold Arbiter.note Translation.arbiter
  dsimp only
  rw [h]

theorem access {m : Access τ α} {n : Access σ α} (h : Access.Translates φ m n) :
    Translates φ (Arbiter.access m) (Arbiter.access n) := by
  intro a mark
  obtain ⟨mark', hmark, ha⟩ := h a.facility mark
  refine ⟨mark', hmark, ?_⟩
  rw [access_run, access_run, show m.run.run (φ.arbiter mark a).facility = _ from ha]
  rfl

/-! Steps that may fail. -/

theorem essential_note {change : Installed → Installed}
    (h : ∀ i, change (φ.installed i) = φ.installed (change i)) :
    Translates φ (modify (Arbiter.note change) : Essential τ PUnit).run
      (modify (Arbiter.note change) : Essential σ PUnit).run :=
  .bind (.note h) fun _ => .pure (Except.ok ())

theorem require {m : Access τ α} {n : Access σ α} (h : Access.Translates φ m n) :
    Translates φ (Arbiter.require m).run (Arbiter.require n).run := by
  intro a mark
  obtain ⟨mark', hmark, ha⟩ := h a.facility mark
  refine ⟨mark', hmark, ?_⟩
  rw [require_run, require_run, show m.run.run (φ.arbiter mark a).facility = _ from ha]
  match n.run.run a.facility with
  | (.ok x, s) | (.error e, s) => rfl

theorem requireRead {read : τ → Except FacilityError α} {read' : σ → Except FacilityError α}
    (h : ∀ mark s, read (φ.facility mark s) = read' s) :
    Translates φ (Arbiter.requireRead read).run (Arbiter.requireRead read').run := by
  refine .of_run_eq fun a mark => ?_
  have ha : read (φ.arbiter mark a).facility = read' a.facility := h mark a.facility
  rw [requireRead_run, requireRead_run, ha]
  cases read' a.facility <;> rfl

theorem orUndo {step : Essential τ α} {step' : Essential σ α} {undo : ArbiterM τ Unit}
    {undo' : ArbiterM σ Unit} (hstep : Translates φ step.run step'.run)
    (hundo : Translates φ undo undo') :
    Translates φ (Arbiter.orUndo step undo).run (Arbiter.orUndo step' undo').run := by
  intro a mark
  obtain ⟨mark₁, hmark₁, hrun⟩ := hstep a mark
  rw [orUndo_run, orUndo_run, hrun]
  match step'.run.run a with
  | (.ok x, a') => exact ⟨mark₁, hmark₁, rfl⟩
  | (.error failure, a') =>
    obtain ⟨mark₂, hmark₂, hundone⟩ := hundo a' mark₁
    refine ⟨mark₂, IsTrans.trans _ _ _ hmark₁ hmark₂, ?_⟩
    dsimp only
    rw [hundone]

end Follows

/-! ### Parts of the operations -/

namespace Translation.Faithful

open Arbiter

variable [Facility σ] [Facility τ] {φ : Translation μ σ τ}

/-! The checks. -/

omit [Facility σ] [Facility τ] in
theorem newId (φ : Translation μ σ τ) : Translates φ newId.run newId.run := by
  refine .of_run_eq fun a mark => ?_
  have hid : (φ.arbiter mark a).lastId = a.lastId := rfl
  rw [newId_run, newId_run, hid]
  cases a.lastId.next? <;> rfl

theorem preflight (h : φ.Faithful) (r : Request) :
    Translates φ (preflight r).run (preflight r).run := by
  have htracing : ∀ mark s, Control.isTracingOn (φ.facility mark s) = Control.isTracingOn s :=
    fun mark s => congrArg _ (h.read mark s Control.tracingOn)
  have htracer : ∀ mark s, Control.tracer (φ.facility mark s) = Control.tracer s := fun mark s =>
    congrArg _ (h.read mark s Control.currentTracer)
  refine .except_bind ?_ fun _ => .except_bind ?_ fun _ => newId φ
  · refine .except_bind (.requireRead htracing) fun tracingOn => .except_get_bind fun a mark => ?_
    refine .except_ite (.except_ite (.except_throw _) (.except_pure _)) ?_
    exact .except_ite (.except_throw _) (.except_pure _)
  · refine .except_get_bind fun a mark => .except_ite ?_ (.except_pure _)
    refine .except_bind (.requireRead htracer) fun tracer => ?_
    exact .except_ite (.except_throw _) (.except_pure _)

/-! The essentials. -/

theorem setSyscallFilter (h : φ.Faithful) (expression : String) :
    Translates φ (access (Control.setSyscallFilter expression))
      (access (Control.setSyscallFilter expression)) :=
  .access (.forEach (fun _ => h.write _ _) _)

theorem installSyscallFilter (h : φ.Faithful) (extra : SyscallFilter) :
    Translates φ (installSyscallFilter extra).run (installSyscallFilter extra).run := by
  refine .except_get_bind fun a mark => .except_ite ?_ ?_
  · exact .except_bind (.essential_note fun _ => rfl) fun _ => .except_pure _
  · refine .except_bind (.require (.forEach (fun _ => h.write _ _) _)) fun _ => ?_
    exact .except_bind (.essential_note fun _ => rfl) fun _ => .except_pure _

theorem restoreSyscallFilter (h : φ.Faithful) :
    Translates φ restoreSyscallFilter restoreSyscallFilter := by
  refine .get_bind fun a mark => .bind (h.setSyscallFilter _) ?_
  rintro (e | ⟨⟩)
  · exact .pure _
  · exact .note fun _ => rfl

omit [Facility σ] [Facility τ] in
theorem recallSyscallFilter (φ : Translation μ σ τ) :
    Translates φ recallSyscallFilter recallSyscallFilter :=
  .get_bind fun _ _ => .note fun _ => rfl

theorem dropFunctionFilters (h : φ.Faithful) :
    Translates φ dropFunctionFilters dropFunctionFilters :=
  .bind (.access (.except_bind (h.write _ _) fun _ => h.write _ _)) fun _ => .pure _

theorem addFunctionFilters (h : φ.Faithful) (r : Request) :
    Translates φ (addFunctionFilters r).run (addFunctionFilters r).run :=
  .except_bind (.require (.forEach (fun _ => h.append _ _) _)) fun _ =>
    .require (.forEach (fun _ => h.append _ _) _)

theorem switchToFunctionGraph (h : φ.Faithful) (r : Request) :
    Translates φ (switchToFunctionGraph r).run (switchToFunctionGraph r).run := by
  refine .except_bind (.require (h.write _ _)) fun _ => ?_
  refine .except_bind (.require (h.write _ _)) fun _ => ?_
  refine .except_bind (h.addFunctionFilters r) fun _ => ?_
  exact .except_bind (.require (h.write _ _)) fun _ => .essential_note fun _ => rfl

theorem engageFunctionGraph (h : φ.Faithful) (r : Request) :
    Translates φ (engageFunctionGraph r).run (engageFunctionGraph r).run := by
  refine .except_ite (.except_pure _) (.except_get_bind fun a mark => .except_ite ?_ ?_)
  · exact .except_bind (h.addFunctionFilters r) fun _ => .except_pure _
  · exact .except_bind (.orUndo (h.switchToFunctionGraph r) h.dropFunctionFilters) fun _ =>
      .except_pure _

theorem disengageFunctionGraph (h : φ.Faithful) :
    Translates φ disengageFunctionGraph disengageFunctionGraph :=
  .bind (.note fun _ => rfl) fun _ => .bind (.access (h.write _ _)) fun _ => h.dropFunctionFilters

theorem pinBuffer (h : φ.Faithful) (r : Request) :
    Translates φ (pinBuffer r).run (pinBuffer r).run := by
  refine .except_get_bind fun a mark => .except_ite ?_ (.except_pure _)
  exact .except_bind (.require (h.write _ _)) fun _ => .essential_note fun _ => rfl

theorem installEssentials (h : φ.Faithful) (r : Request) (filter : SyscallFilter) :
    Translates φ (installEssentials r filter).run (installEssentials r filter).run := by
  refine .except_bind (.orUndo (h.installSyscallFilter filter) h.restoreSyscallFilter)
    fun written => .orUndo (.except_bind (h.engageFunctionGraph r) fun engaged =>
      .orUndo (h.pinBuffer r) (.ite h.disengageFunctionGraph (.pure _))) ?_
  exact .ite h.restoreSyscallFilter (recallSyscallFilter φ)

/-! What a setup does as far as it goes. -/

theorem startFresh (h : φ.Faithful) : Translates φ startFresh startFresh := by
  have hclear : Translates φ (access Control.clearTrace) (access Control.clearTrace) :=
    .access (h.write _ _)
  refine .get_bind fun a mark => .ite (.bind (.access (h.write _ _)) ?_) (.pure _)
  rintro (e | ⟨⟩)
  · exact .bind hclear fun _ => .pure _
  · exact .bind (.note fun _ => rfl) fun _ => .bind hclear fun _ => .pure _

theorem selectClock (h : φ.Faithful) (r : Request) :
    Translates φ (selectClock r) (selectClock r) := by
  refine .get_bind fun a mark => .ite ?_ (.pure _)
  have hread : Facility.read (φ.arbiter mark a).facility Control.traceClock =
      Facility.read a.facility Control.traceClock := h.read mark a.facility _
  have hclock : Control.clock (φ.arbiter mark a).facility = Control.clock a.facility :=
    congrArg _ hread
  have hclocks : Control.availableClocks (φ.arbiter mark a).facility =
      Control.availableClocks a.facility := by
    unfold Control.availableClocks
    rw [hread]
  have hsettings : (φ.arbiter mark a).settings = a.settings := rfl
  rw [hclock, hclocks, hsettings]
  dsimp only
  split
  · refine .bind (.access (h.write _ _)) ?_
    rintro (e | ⟨⟩) <;> exact .bind (.pure _) fun _ => .note fun _ => rfl
  · exact .bind (.pure _) fun _ => .note fun _ => rfl

theorem enableEvent (h : φ.Faithful) (e : Event) : Translates φ (enableEvent e) (enableEvent e) := by
  refine .get_bind fun a mark => .ite (.pure _) (.ite ?_ (.bind (.access (h.write _ _)) ?_))
  · exact .bind (.note fun _ => rfl) fun _ => .pure _
  · rintro (e | ⟨⟩)
    · exact .pure _
    · exact .bind (.note fun _ => rfl) fun _ => .pure _

theorem enableEvents (h : φ.Faithful) (events : List Event) :
    Translates φ (enableEvents events) (enableEvents events) := by
  induction events with
  | nil => exact .pure _
  | cons e events ih => exact .bind (h.enableEvent e) fun _ => .bind ih fun _ => .pure _

theorem beforeJoining (h : φ.Faithful) (r : Request) (events : List Event) :
    Translates φ (beforeJoining r events) (beforeJoining r events) :=
  .bind h.startFresh fun _ => .bind (h.selectClock r) fun _ => h.enableEvents events

/-! Parts of a removal. -/

theorem shrinkSyscallFilter (h : φ.Faithful) :
    Translates φ shrinkSyscallFilter shrinkSyscallFilter :=
  .bind (h.installSyscallFilter .none) fun _ => .pure _

theorem disableEvent (h : φ.Faithful) (id : EventId) :
    Translates φ (disableEvent id) (disableEvent id) := by
  refine .get_bind fun a mark => ?_
  have hcatalog : (φ.arbiter mark a).catalog = a.catalog := rfl
  rw [hcatalog]
  split
  · exact .note fun _ => rfl
  · refine .ite (.note fun _ => rfl) (.bind (.access (h.write _ _)) ?_)
    rintro (e | ⟨⟩)
    · exact .pure _
    · exact .note fun _ => rfl

theorem disableEvents (h : φ.Faithful) (ids : List EventId) :
    Translates φ (disableEvents ids) (disableEvents ids) := by
  induction ids with
  | nil => exact .pure _
  | cons id ids ih => exact .bind (h.disableEvent id) fun _ => ih

theorem shrinkEvents (h : φ.Faithful) : Translates φ shrinkEvents shrinkEvents :=
  .get_bind fun _ _ => h.disableEvents _

theorem deactivate (h : φ.Faithful) (id : SessionId) :
    Translates φ (deactivate id) (deactivate id) := by
  have hstop : Translates φ (do let _ ← access (Control.setTracingOn false))
      (do let _ ← access (Control.setTracingOn false)) :=
    .bind (.access (h.write _ _)) fun _ => .pure _
  -- What is set is the state that has just been read, so the mark is still that of the reading.
  intro a mark
  unfold Arbiter.deactivate
  rw [state_get_bind, state_get_bind, show (φ.arbiter mark a).active = a.active from rfl]
  split
  · exact Follows.ite hstop (.pure _) { a with active := a.active.erase id } mark
  · exact Follows.pure () a mark

end Translation.Faithful

end TraceArbiter
