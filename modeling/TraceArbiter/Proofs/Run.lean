import TraceArbiter.Proofs.Arbiter.Refusals
import TraceArbiter.Proofs.Arbiter.Sessions
import TraceArbiter.Proofs.Facility.Writes

/-!
# Runs

An arbiter over a simulated facility, with everything that can happen to it: its own operations,
accesses that are made to fail and to work again, annotations that somebody else takes or leaves, and
control files that somebody else writes. A run takes any steps in any order, so what holds after
every run holds in every state that can be reached.
-/

namespace TraceArbiter

open Std

/-- What can be done to a simulated facility without writing a control file. -/
inductive Rigging where
  | failWritesTo (path : String)
  | failReadsOf (path : String)
  | failAnnotations (reason : String)
  | clearFailures
  | setExternalAgent (active : Bool)
  deriving DecidableEq

def Rigging.apply (s : Simulation) : Rigging → Simulation
  | .failWritesTo path => s.failWritesTo path
  | .failReadsOf path => s.failReadsOf path
  | .failAnnotations reason => s.failAnnotations reason
  | .clearFailures => s.clearFailures
  | .setExternalAgent active => s.setExternalAgent active

@[simp]
theorem Rigging.value?_apply (s : Simulation) (rigging : Rigging) (path : String) :
    (rigging.apply s).value? path = s.value? path := by
  cases rigging <;> rfl

/-- What can happen to an arbiter over a simulated facility. -/
inductive Step where
  | setup (r : Request) (report : SetupReport)
  | activate (id : SessionId)
  | remove (id : SessionId)
  | resetTracer
  | rig (rigging : Rigging)
  /-- Somebody else writes a control file. -/
  | poke (path value : String)
  deriving DecidableEq

namespace Step

def apply (a : Arbiter Simulation) : Step → Arbiter Simulation
  | .setup r report => ((Arbiter.setup r report).run a).2
  | .activate id => ((Arbiter.activate id).run a).2
  | .remove id => ((Arbiter.remove id).run a).2
  | .resetTracer => (Arbiter.resetTracer.run a).2
  | .rig rigging => { a with facility := rigging.apply a.facility }
  | .poke path value => { a with facility := a.facility.poke path value }

def refusedWrites (a : Arbiter Simulation) : Step → List String
  | .setup r report => Arbiter.refusedWrites (Arbiter.setup r report) a
  | .activate id => Arbiter.refusedWrites (Arbiter.activate id) a
  | .remove id => Arbiter.refusedWrites (Arbiter.remove id) a
  | .resetTracer => Arbiter.refusedWrites Arbiter.resetTracer a
  | .rig _ => []
  | .poke _ _ => []

def isOutside : Step → Bool
  | .poke _ _ => true
  | _ => false

/-- Somebody else writes the given file. -/
def pokes (path : String) : Step → Bool
  | .poke file _ => file = path
  | _ => false

theorem not_pokes {step : Step} (path : String) (houtside : ¬step.isOutside) :
    ¬step.pokes path := by
  cases step with
  | poke => exact absurd rfl houtside
  | _ => exact Bool.false_ne_true

def isRemoval : Step → Bool
  | .remove _ => true
  | _ => false

def isTracerReset : Step → Bool
  | .resetTracer => true
  | _ => false

theorem eq_resetTracer {step : Step} (h : step.isTracerReset) : step = .resetTracer := by
  cases step with
  | resetTracer => rfl
  | _ => exact absurd h Bool.false_ne_true

end Step

namespace Arbiter

/-- The arbiter before its first step, over a facility that nobody uses. -/
def fresh (catalog : Catalog) (settings : Settings) : Arbiter Simulation :=
  { facility := .idle, catalog, settings }

/-- The arbiter before its first step, over a facility that others have used. -/
def freshOver (s : Simulation) (catalog : Catalog) (settings : Settings) : Arbiter Simulation :=
  { facility := s, catalog, settings }

def after (a : Arbiter Simulation) (steps : List Step) : Arbiter Simulation :=
  steps.foldl Step.apply a

theorem after_append (a : Arbiter Simulation) (steps rest : List Step) :
    a.after (steps ++ rest) = (a.after steps).after rest :=
  List.foldl_append

@[simp]
theorem after_snoc (a : Arbiter Simulation) (steps : List Step) (step : Step) :
    a.after (steps ++ [step]) = step.apply (a.after steps) :=
  a.after_append steps [step]

/-- Each step of the run has the property in the state where it is taken. -/
def Along (P : Arbiter Simulation → Step → Prop) : Arbiter Simulation → List Step → Prop
  | _, [] => True
  | a, step :: steps => P a step ∧ Along P (step.apply a) steps

instance Along.decidable (P : Arbiter Simulation → Step → Prop) [∀ a step, Decidable (P a step)] :
    ∀ a steps, Decidable (Along P a steps)
  | _, [] => .isTrue trivial
  | a, step :: steps =>
    have := decidable P (step.apply a) steps
    inferInstanceAs (Decidable (P a step ∧ Along P (step.apply a) steps))

namespace Along

variable {P Q : Arbiter Simulation → Step → Prop}

theorem of_forall {p : Step → Prop} (steps : List Step) (a : Arbiter Simulation)
    (h : ∀ step ∈ steps, p step) : Along (fun _ step => p step) a steps := by
  induction steps generalizing a with
  | nil => trivial
  | cons step steps ih => exact ⟨h step (.head _), ih _ fun s hs => h s (.tail _ hs)⟩

theorem mono {steps : List Step} {a : Arbiter Simulation} (hP : Along P a steps)
    (h : ∀ a step, P a step → Q a step) : Along Q a steps := by
  induction steps generalizing a with
  | nil => trivial
  | cons step steps ih => exact ⟨h a step hP.1, ih hP.2⟩

theorem and {steps : List Step} {a : Arbiter Simulation} (hP : Along P a steps)
    (hQ : Along Q a steps) : Along (fun a step => P a step ∧ Q a step) a steps := by
  induction steps generalizing a with
  | nil => trivial
  | cons step steps ih => exact ⟨⟨hP.1, hQ.1⟩, ih hP.2 hQ.2⟩

theorem of_prefix {steps taken : List Step} {a : Arbiter Simulation} (h : Along P a steps)
    (htaken : taken <+: steps) : Along P a taken := by
  induction steps generalizing a taken with
  | nil =>
    rw [List.prefix_nil.mp htaken]
    trivial
  | cons step steps ih =>
    obtain rfl | ⟨rest, rfl, hrest⟩ := List.prefix_cons_iff.mp htaken
    · trivial
    · exact ⟨h.1, ih h.2 hrest⟩

/-- The property of a single step of the run. -/
theorem at_step {before rest : List Step} {step : Step} {a : Arbiter Simulation}
    (h : Along P a (before ++ step :: rest)) : P (a.after before) step := by
  induction before generalizing a with
  | nil => exact h.1
  | cons first before ih => exact ih h.2

/-- What every step with the property keeps is kept by the run. -/
theorem invariant {Inv : Arbiter Simulation → Prop} {steps : List Step} {a : Arbiter Simulation}
    (hsteps : Along P a steps) (hstep : ∀ a step, Inv a → P a step → Inv (step.apply a))
    (ha : Inv a) : Inv (a.after steps) := by
  induction steps generalizing a with
  | nil => exact ha
  | cons step steps ih => exact ih hsteps.2 (hstep a step ha hsteps.1)

end Along

theorem along_snoc {P : Arbiter Simulation → Step → Prop} {a : Arbiter Simulation}
    {steps : List Step} {step : Step} :
    Along P a (steps ++ [step]) ↔ Along P a steps ∧ P (a.after steps) step := by
  induction steps generalizing a with
  | nil => exact and_comm
  | cons first steps ih => exact (and_congr_right fun _ => ih).trans and_assoc.symm

/-- What every step keeps is kept by every run. -/
theorem invariant_after {I : Arbiter Simulation → Prop} {a : Arbiter Simulation}
    (hstep : ∀ a (step : Step), I a → I (step.apply a)) (ha : I a) (steps : List Step) :
    I (a.after steps) := by
  have hany := Along.of_forall (p := fun _ => True) steps a fun _ _ => trivial
  exact hany.invariant (fun a step ha _ => hstep a step ha) ha

/-- The state has the property at the start of the run and after each of its steps. -/
def Throughout (P : Arbiter Simulation → Prop) (a : Arbiter Simulation) (steps : List Step) : Prop :=
  ∀ taken, taken <+: steps → P (a.after taken)

theorem Throughout.start {P : Arbiter Simulation → Prop} {a : Arbiter Simulation} {steps : List Step}
    (h : Throughout P a steps) : P a :=
  h [] List.nil_prefix

theorem throughout_nil {P : Arbiter Simulation → Prop} {a : Arbiter Simulation} :
    Throughout P a [] ↔ P a := by
  refine ⟨Throughout.start, fun h taken htaken => ?_⟩
  rw [List.prefix_nil.mp htaken]
  exact h

theorem throughout_cons {P : Arbiter Simulation → Prop} {a : Arbiter Simulation} {step : Step}
    {steps : List Step} :
    Throughout P a (step :: steps) ↔ P a ∧ Throughout P (step.apply a) steps := by
  constructor
  · intro h
    refine ⟨h.start, fun taken htaken => ?_⟩
    exact h (step :: taken) (List.cons_prefix_cons.mpr ⟨rfl, htaken⟩)
  · rintro ⟨hstart, hrest⟩ taken htaken
    obtain rfl | ⟨rest, rfl, hprefix⟩ := List.prefix_cons_iff.mp htaken
    · exact hstart
    · exact hrest rest hprefix

theorem throughout_iff_along {P : Arbiter Simulation → Prop} {a : Arbiter Simulation}
    {steps : List Step} :
    Throughout P a steps ↔ P a ∧ Along (fun a step => P (step.apply a)) a steps := by
  induction steps generalizing a with
  | nil => exact throughout_nil.trans (and_iff_left trivial).symm
  | cons step steps ih => exact throughout_cons.trans (and_congr_right fun _ => ih)

/-- Some step of the run has the first property in the state where it is taken, and every later step
has the second. -/
def Since (P Q : Arbiter Simulation → Step → Prop) (a : Arbiter Simulation) (steps : List Step) :
    Prop :=
  ∃ before step rest, steps = before ++ step :: rest ∧ P (a.after before) step ∧
    Along Q (step.apply (a.after before)) rest

theorem not_since_nil {P Q : Arbiter Simulation → Step → Prop} {a : Arbiter Simulation} :
    ¬Since P Q a [] := by
  rintro ⟨before, step, rest, hsteps, -⟩
  exact List.append_ne_nil_of_right_ne_nil _ (List.cons_ne_nil _ _) hsteps.symm

/-- Since some step the property holds if that step is the last one, or the property held before the
last step and the last step has it. -/
theorem since_snoc {P Q : Arbiter Simulation → Step → Prop} {a : Arbiter Simulation}
    {steps : List Step} {step : Step} :
    Since P Q a (steps ++ [step]) ↔
      P (a.after steps) step ∨ Since P Q a steps ∧ Q (a.after steps) step := by
  constructor
  · rintro ⟨before, first, rest, hsteps, hfirst, hrest⟩
    obtain rfl | ⟨rest, last, rfl⟩ := rest.eq_nil_or_concat'
    · obtain ⟨rfl, hlast⟩ := List.append_inj' hsteps rfl
      obtain rfl := (List.cons.inj hlast).1
      exact .inl hfirst
    · rw [← List.cons_append, ← List.append_assoc] at hsteps
      obtain ⟨rfl, hlast⟩ := List.append_inj' hsteps rfl
      obtain rfl := (List.cons.inj hlast).1
      rw [along_snoc] at hrest
      refine .inr ⟨⟨before, first, rest, rfl, hfirst, hrest.1⟩, ?_⟩
      rw [after_append]
      exact hrest.2
  · rintro (hstep | ⟨⟨before, first, rest, rfl, hfirst, hrest⟩, hstep⟩)
    · exact ⟨steps, step, [], rfl, hstep, trivial⟩
    · refine ⟨before, first, rest ++ [step], by simp, hfirst, along_snoc.mpr ⟨hrest, ?_⟩⟩
      rw [after_append] at hstep
      exact hstep

theorem IdsAllotted.apply {a : Arbiter Simulation} (ha : a.IdsAllotted) (step : Step) :
    (step.apply a).IdsAllotted := by
  cases step with
  | setup r report =>
    change ((Arbiter.setup r report).run a).2.IdsAllotted
    match hrun : (Arbiter.setup r report).run a with
    | ((id, report'), a') =>
      cases setup_case hrun with
      | refused => exact ha
      | undone _ _ _ _ _ hundone =>
        exact ha.of_frame ((framed_installEssentials r _).of_run hundone)
      | completed _ _ a₁ hid _ hdone =>
        have hframe := (framed_installEssentials r _).of_run hdone
        exact (ha.of_frame hframe).completeSetup r _ (by rw [hframe.lastId]; exact hid)
  | activate id => exact ha.of_frame (frame_activate id a)
  | remove id =>
    have hsessions := sessions_remove id a
    have hremoved : IdsAllotted { a with sessions := ((Arbiter.remove id).run a).2.sessions } := by
      rw [hsessions]
      split
      · exact ha.without id
      · exact ha
    exact hremoved.of_frame (frame_remove id a)
  | resetTracer => exact ha.of_frame (framed_resetTracer a)
  | rig rigging => exact ha
  | poke path value => exact ha

theorem catalog_apply (a : Arbiter Simulation) (step : Step) :
    (step.apply a).catalog = a.catalog := by
  cases step with
  | setup r report => exact (frame_setup r report a).catalog
  | activate id => exact (frame_activate id a).catalog
  | remove id => exact (frame_remove id a).catalog
  | resetTracer => exact (framed_resetTracer a).catalog
  | rig rigging => rfl
  | poke path value => rfl

theorem catalog_after (a : Arbiter Simulation) (steps : List Step) :
    (a.after steps).catalog = a.catalog :=
  invariant_after (fun b step hb => (catalog_apply b step).trans hb) rfl steps

/-- A step keeps the sessions, registers one under the next id, or removes one. -/
theorem sessions_apply (a : Arbiter Simulation) (step : Step) :
    (step.apply a).sessions = a.sessions ∨
      (∃ id config, a.lastId.next? = some id ∧
        (step.apply a).sessions = a.sessions.insert id config) ∨
      ∃ id, (step.apply a).sessions = a.sessions.erase id := by
  cases step with
  | setup r report =>
    match hrun : (Arbiter.setup r report).run a with
    | ((id, report'), a') =>
      have happly : Step.apply a (.setup r report) = a' := congrArg Prod.snd hrun
      rw [happly]
      obtain ⟨-, hsame⟩ | ⟨hid, config, hinsert⟩ := sessions_setup hrun
      · exact .inl hsame
      · exact .inr (.inl ⟨id, config, hid, hinsert⟩)
  | activate id => exact .inl (frame_activate id a).sessions
  | remove id =>
    have hsessions := sessions_remove id a
    split at hsessions
    · exact .inr (.inr ⟨id, hsessions⟩)
    · exact .inl hsessions
  | resetTracer => exact .inl (framed_resetTracer a).sessions
  | rig rigging => exact .inl rfl
  | poke path value => exact .inl rfl

/-- Ids are given out in increasing order. -/
theorem lastId_le_apply (a : Arbiter Simulation) (step : Step) :
    a.lastId.raw.toNat ≤ (step.apply a).lastId.raw.toNat := by
  have hsame {a' : Arbiter Simulation} (h : a'.lastId = a.lastId) :
      a.lastId.raw.toNat ≤ a'.lastId.raw.toNat :=
    Nat.le_of_eq (congrArg (·.raw.toNat) h.symm)
  cases step with
  | setup r report =>
    change _ ≤ ((Arbiter.setup r report).run a).2.lastId.raw.toNat
    match hrun : (Arbiter.setup r report).run a with
    | ((id, report'), a') =>
      cases setup_case hrun with
      | refused => exact Nat.le_refl _
      | undone _ _ _ _ _ hundone =>
        exact hsame ((framed_installEssentials r _).of_run hundone).lastId
      | completed _ _ a₁ hid =>
        have hnext := SessionId.toNat_next? hid
        have hlast := (sessions_completeSetup r id (r.plan a.catalog) a₁).1
        dsimp only
        rw [hlast]
        omega
  | activate id => exact hsame (frame_activate id a).lastId
  | remove id => exact hsame (frame_remove id a).lastId
  | resetTracer => exact hsame (framed_resetTracer a).lastId
  | rig rigging => exact Nat.le_refl _
  | poke path value => exact Nat.le_refl _

theorem isRegistered_iff {a : Arbiter Simulation} {id : SessionId}
    (hinvalid : a.session? .invalid = none) : a.isRegistered id ↔ (a.session? id).isSome := by
  rw [isRegistered_iff_isValid, SessionId.isValid_iff]
  refine and_iff_right_of_imp fun hconfig => ?_
  rintro rfl
  rw [hinvalid] at hconfig
  cases hconfig

/-- No session is ever registered under the invalid id. -/
theorem session?_invalid_after (catalog : Catalog) (settings : Settings) (steps : List Step) :
    ((fresh catalog settings).after steps).session? .invalid = none := by
  apply invariant_after (I := fun a => a.session? .invalid = none)
  · intro a step ha
    unfold session? at ha ⊢
    obtain hsessions | ⟨id, config, hid, hsessions⟩ | ⟨id, hsessions⟩ := sessions_apply a step
    · rw [hsessions, ha]
    · rw [hsessions, ExtTreeMap.getElem?_insert, if_neg, ha]
      intro heq
      exact SessionId.next?_ne_invalid hid (LawfulEqOrd.eq_of_compare heq)
    · rw [hsessions, ExtTreeMap.getElem?_erase, ha, ite_self]
  · rfl

def smallKernel : List Event :=
  [⟨1, "sched", "sched_switch"⟩, ⟨2, "sched", "sched_waking"⟩, ⟨3, "raw_syscalls", "sys_enter"⟩,
    ⟨4, "raw_syscalls", "sys_exit"⟩, ⟨5, "ftrace", "print"⟩]

def smallCatalog : Catalog where
  events := .ofList smallKernel

/-- Sets up a session that records one system call. -/
def recordCall (call : String) : Step :=
  .setup { events := ["raw_syscalls/*"], syscalls := [call] } {}

end Arbiter

end TraceArbiter
