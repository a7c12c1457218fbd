import Mathlib.Data.List.Induction
import TraceArbiter.Proofs.Arbiter.Lockout

/-!
# The registry of sessions

The ids that a run has given out and those that it has removed, read off what its setups and removals
return. A step either keeps the registry, registers a session under the next id, or removes one that
is registered; refused writes do not come into it. Main statement: over any facility and whatever
others do to it, ids are given out in order and never twice, the sessions that are registered are
those that were given an id and not removed, and a session keeps its configuration until it is
removed.
-/

namespace TraceArbiter

open Std

namespace Step

/-- The id that the step gives out, if it sets up a session. -/
def granted? (a : Arbiter Simulation) : Step → Option SessionId
  | .setup r report =>
    let id := ((Arbiter.setup r report).run a).1.1
    if id = .invalid then none else some id
  | _ => none

/-- The id that the step removes, if there is a session under it. -/
def removed? (a : Arbiter Simulation) : Step → Option SessionId
  | .remove id => if ((Arbiter.remove id).run a).1 then some id else none
  | _ => none

end Step

namespace Arbiter

variable {a a' : Arbiter Simulation} {id : SessionId} {config : SessionConfig}
  {given? gone? : Option SessionId}

/-! ### What a run gives -/

/-- What the steps of a run give, in order. -/
def gathered {α : Type} (given? : Arbiter Simulation → Step → Option α) :
    Arbiter Simulation → List Step → List α
  | _, [] => []
  | a, step :: steps => (given? a step).toList ++ gathered given? (step.apply a) steps

theorem gathered_append {α : Type} (given? : Arbiter Simulation → Step → Option α)
    (a : Arbiter Simulation) (steps rest : List Step) :
    gathered given? a (steps ++ rest) =
      gathered given? a steps ++ gathered given? (a.after steps) rest := by
  induction steps generalizing a with
  | nil => rfl
  | cons step steps ih =>
    change (given? a step).toList ++ gathered given? (step.apply a) (steps ++ rest) =
      (given? a step).toList ++ gathered given? (step.apply a) steps ++
        gathered given? ((step.apply a).after steps) rest
    rw [ih, List.append_assoc]

/-- The ids that the setups of a run return, but for those that fail. -/
def granted : Arbiter Simulation → List Step → List SessionId :=
  gathered Step.granted?

/-- The ids for which the removals of a run return that they have removed the session. -/
def removed : Arbiter Simulation → List Step → List SessionId :=
  gathered Step.removed?

/-! ### Single steps -/

/-- What a step can do to the registry, by the id that it gives out and the id that it removes. -/
inductive RegistryCase (a : Arbiter Simulation) :
    Option SessionId → Option SessionId → Arbiter Simulation → Prop
  | kept (a' : Arbiter Simulation) (hlast : a'.lastId = a.lastId)
      (hsessions : a'.sessions = a.sessions) : RegistryCase a none none a'
  | registered (id : SessionId) (config : SessionConfig) (a' : Arbiter Simulation)
      (hid : a.lastId.next? = some id) (hlast : a'.lastId = id)
      (hsessions : a'.sessions = a.sessions.insert id config) : RegistryCase a (some id) none a'
  | erased (id : SessionId) (a' : Arbiter Simulation) (hregistered : a.isRegistered id)
      (hlast : a'.lastId = a.lastId) (hsessions : a'.sessions = a.sessions.erase id) :
      RegistryCase a none (some id) a'

theorem registry_case (a : Arbiter Simulation) (step : Step) :
    RegistryCase a (step.granted? a) (step.removed? a) (step.apply a) := by
  cases step with
  | setup r report =>
    change RegistryCase a
      (if ((setup r report).run a).1.1 = .invalid then none
        else some ((setup r report).run a).1.1)
      none ((setup r report).run a).2
    match hrun : (setup r report).run a with
    | ((id, report'), a') =>
      cases setup_case hrun with
      | refused => exact .kept a rfl rfl
      | undone _ _ _ _ _ hundone =>
        have hframe := (framed_installEssentials r _).of_run hundone
        exact .kept a' hframe.lastId hframe.sessions
      | completed _ _ a₁ hid _ hdone =>
        obtain ⟨hlast, config, -, hsessions⟩ :=
          sessions_completeSetup r id (r.plan a.catalog) a₁
        rw [((framed_installEssentials r _).of_run hdone).sessions] at hsessions
        rw [if_neg (SessionId.next?_ne_invalid hid)]
        exact .registered id config _ hid hlast hsessions
  | activate id => exact .kept _ (frame_activate id a).lastId (frame_activate id a).sessions
  | remove id =>
    have hsessions := sessions_remove id a
    have hremoved : ((remove id).run a).1 = a.isRegistered id := by
      rw [remove_run]
      split <;> simp [*]
    unfold Step.granted? Step.removed? Step.apply
    dsimp only
    rw [hremoved]
    split at hsessions
    · next hregistered =>
      rw [if_pos hregistered]
      exact .erased id _ hregistered (frame_remove id a).lastId hsessions
    · next hunknown =>
      rw [if_neg hunknown]
      exact .kept _ (frame_remove id a).lastId hsessions
  | resetTracer => exact .kept _ (framed_resetTracer a).lastId (framed_resetTracer a).sessions
  | rig rigging => exact .kept _ rfl rfl
  | poke path value => exact .kept _ rfl rfl

theorem session?_of_insert {id' : SessionId} (h : a'.sessions = a.sessions.insert id config) :
    a'.session? id' = if id = id' then some config else a.session? id' := by
  unfold session?
  rw [h, ExtTreeMap.getElem?_insert]
  simp only [LawfulEqOrd.compare_eq_iff_eq]

theorem session?_of_erase {id' : SessionId} (h : a'.sessions = a.sessions.erase id) :
    a'.session? id' = if id = id' then none else a.session? id' := by
  unfold session?
  rw [h, ExtTreeMap.getElem?_erase]
  simp only [LawfulEqOrd.compare_eq_iff_eq]

/-! ### What the ids tell -/

/-- The registry of an arbiter that has given out some ids, in this order, and removed some. -/
structure RegistryOf (given gone : List SessionId) (a : Arbiter Simulation) : Prop where
  numbered : given.map (·.raw.toNat) = List.range' 1 given.length
  lastId : a.lastId.raw.toNat = given.length
  registered : ∀ id, (a.session? id).isSome ↔ id ∈ given ∧ id ∉ gone
  gone_subset : gone ⊆ given

namespace RegistryOf

variable {given gone : List SessionId}

theorem toNat_of_getElem? (h : RegistryOf given gone a) {k : Nat} (hk : given[k]? = some id) :
    id.raw.toNat = k + 1 := by
  have hmap : (given.map (·.raw.toNat))[k]? = some id.raw.toNat := by
    rw [List.getElem?_map, hk]
    rfl
  rw [h.numbered, List.getElem?_eq_some_iff] at hmap
  obtain ⟨hlt, heq⟩ := hmap
  rw [List.getElem_range'] at heq
  omega

theorem toNat_of_mem (h : RegistryOf given gone a) (hid : id ∈ given) :
    1 ≤ id.raw.toNat ∧ id.raw.toNat ≤ given.length := by
  obtain ⟨k, hlt, hk⟩ := List.mem_iff_getElem.mp hid
  have hnat := h.toNat_of_getElem? (List.getElem?_eq_some_iff.mpr ⟨hlt, hk⟩)
  omega

/-- The next id has not been given out yet. -/
theorem not_mem_next (h : RegistryOf given gone a) (hid : a.lastId.next? = some id) :
    id ∉ given := by
  intro hmem
  have hle := (h.toNat_of_mem hmem).2
  have hnext := SessionId.toNat_next? hid
  have hlast := h.lastId
  omega

theorem session?_invalid (h : RegistryOf given gone a) : a.session? .invalid = none := by
  rw [← Option.not_isSome_iff_eq_none, h.registered]
  rintro ⟨hmem, -⟩
  have hpos := (h.toNat_of_mem hmem).1
  exact absurd hpos (by decide)

theorem idsAllotted (h : RegistryOf given gone a) : a.IdsAllotted := by
  intro id config hconfig
  have hmem := ((h.registered id).mp (Option.isSome_iff_exists.mpr ⟨config, hconfig⟩)).1
  rw [h.lastId]
  exact (h.toNat_of_mem hmem).2

theorem empty (hlast : a.lastId = .invalid) (hnobody : a.sessions = ∅) : RegistryOf [] [] a where
  numbered := rfl
  lastId := congrArg (·.raw.toNat) hlast
  registered := by
    intro id
    unfold session?
    simp [hnobody]
  gone_subset := List.nil_subset _

theorem register (h : RegistryOf given gone a) (hid : a.lastId.next? = some id)
    (hlast : a'.lastId = id) (hsessions : a'.sessions = a.sessions.insert id config) :
    RegistryOf (given ++ [id]) gone a' where
  numbered := by
    rw [List.map_append, h.numbered, List.length_append, List.length_singleton,
      List.range'_concat, List.map_singleton, SessionId.toNat_next? hid, h.lastId]
    simp [Nat.add_comm]
  lastId := by
    rw [hlast, SessionId.toNat_next? hid, h.lastId, List.length_append, List.length_singleton]
  registered := by
    intro id'
    have hnew : id ∉ gone := fun hgone => h.not_mem_next hid (h.gone_subset hgone)
    rw [session?_of_insert hsessions, List.mem_append, List.mem_singleton]
    split
    · next heq =>
      subst heq
      exact iff_of_true rfl ⟨.inr rfl, hnew⟩
    · next hne =>
      rw [h.registered, or_iff_left (Ne.symm hne)]
  gone_subset := List.subset_append_of_subset_left _ h.gone_subset

theorem erase (h : RegistryOf given gone a) (hregistered : a.isRegistered id)
    (hlast : a'.lastId = a.lastId) (hsessions : a'.sessions = a.sessions.erase id) :
    RegistryOf given (gone ++ [id]) a' where
  numbered := h.numbered
  lastId := by rw [hlast, h.lastId]
  registered := by
    intro id'
    rw [session?_of_erase hsessions, List.mem_append, List.mem_singleton]
    split
    · next heq =>
      subst heq
      exact iff_of_false Bool.false_ne_true fun hid => hid.2 (.inr rfl)
    · next hne =>
      rw [h.registered, or_iff_left (Ne.symm hne)]
  gone_subset := by
    have hgiven := ((h.registered id).mp (isRegistered_iff_isValid.mp hregistered).2).1
    exact List.append_subset.mpr ⟨h.gone_subset, List.cons_subset.mpr ⟨hgiven, List.nil_subset _⟩⟩

theorem turn (h : RegistryOf given gone a) (hcase : RegistryCase a given? gone? a') :
    RegistryOf (given ++ given?.toList) (gone ++ gone?.toList) a' := by
  cases hcase with
  | kept _ hlast hsessions =>
    rw [Option.toList_none, List.append_nil, List.append_nil]
    refine ⟨h.numbered, by rw [hlast, h.lastId], fun id => ?_, h.gone_subset⟩
    rw [← h.registered, session?, session?, hsessions]
  | registered id config _ hid hlast hsessions =>
    rw [Option.toList_none, List.append_nil]
    exact h.register hid hlast hsessions
  | erased id _ hregistered hlast hsessions =>
    rw [Option.toList_none, List.append_nil]
    exact h.erase hregistered hlast hsessions

theorem after (h : RegistryOf given gone a) (steps : List Step) :
    RegistryOf (given ++ granted a steps) (gone ++ removed a steps) (a.after steps) := by
  induction steps generalizing a given gone with
  | nil =>
    change RegistryOf (given ++ []) (gone ++ []) a
    rw [List.append_nil, List.append_nil]
    exact h
  | cons step steps ih =>
    have hrest := ih (h.turn (registry_case a step))
    rw [List.append_assoc, List.append_assoc] at hrest
    exact hrest

end RegistryOf

/-! ### Runs -/

theorem registryOf_after (s : Simulation) (catalog : Catalog) (settings : Settings)
    (steps : List Step) :
    RegistryOf (granted (freshOver s catalog settings) steps)
      (removed (freshOver s catalog settings) steps)
      ((freshOver s catalog settings).after steps) :=
  (RegistryOf.empty rfl rfl).after steps

theorem remove_eq_true_iff (hinvalid : a.session? .invalid = none) :
    ((remove id).run a).1 = true ↔ (a.session? id).isSome := by
  rw [← isRegistered_iff hinvalid, remove_run]
  split <;> simp [*]

theorem RegistryCase.session?_eq (h : RegistryCase a given? gone? a') (ha : a.IdsAllotted)
    (hconfig : a.session? id = some config) (hkept : id ∉ gone?.toList) :
    a'.session? id = some config := by
  cases h with
  | kept _ _ hsessions =>
    rw [session?, hsessions]
    exact hconfig
  | registered id' _ _ hid _ hsessions =>
    rw [session?_of_insert hsessions, if_neg, hconfig]
    rintro rfl
    rw [ha.session?_next hid] at hconfig
    cases hconfig
  | erased id' _ _ _ hsessions =>
    rw [session?_of_erase hsessions, if_neg, hconfig]
    rintro rfl
    exact hkept (List.mem_singleton_self id')

/-- A session keeps its configuration until it is removed. -/
theorem session?_after (ha : a.IdsAllotted) (hconfig : a.session? id = some config)
    {steps : List Step} (hkept : id ∉ removed a steps) :
    (a.after steps).session? id = some config := by
  induction steps generalizing a with
  | nil => exact hconfig
  | cons step steps ih =>
    obtain ⟨hstep, hrest⟩ := not_or.mp (List.mem_append.not.mp hkept)
    exact ih (ha.apply step) ((registry_case a step).session?_eq ha hconfig hstep) hrest

/-- Over any facility, whatever fails and whatever others do: the k-th setup that works returns the
id k; the registered sessions are those whose id was returned and not removed since, and only they
record; a removal works exactly if its session is registered, after which there is no session under
that id ever again; and a session keeps its configuration until it is removed. -/
theorem registry_after (s : Simulation) (catalog : Catalog) (settings : Settings)
    (steps : List Step) :
    let start := freshOver s catalog settings
    let a := start.after steps
    (∀ k id, (granted start steps)[k]? = some id → id.raw.toNat = k + 1) ∧
      (∀ id, (a.session? id).isSome ↔ id ∈ granted start steps ∧ id ∉ removed start steps) ∧
      (∀ id ∈ a.active, (a.session? id).isSome) ∧
      (∀ id, ((remove id).run a).1 = true ↔ (a.session? id).isSome) ∧
      (∀ id ∈ removed start steps, ∀ rest,
        (a.after rest).session? id = none ∧ ((activate id).run (a.after rest)).1 = false ∧
          ((remove id).run (a.after rest)).1 = false) ∧
      ∀ id config rest, a.session? id = some config → id ∉ removed a rest →
        (a.after rest).session? id = some config := by
  intro start a
  have ha := registryOf_after s catalog settings steps
  have hactive : a.ActiveRegistered := invariant_after (fun _ step h => h.apply step) nofun steps
  refine ⟨fun k id => ha.toNat_of_getElem?, ha.registered, hactive,
    fun id => remove_eq_true_iff ha.session?_invalid, fun id hremoved rest => ?_,
    fun id config rest hconfig => session?_after ha.idsAllotted hconfig⟩
  have hrest := registryOf_after s catalog settings (steps ++ rest)
  have hgone : id ∈ removed start (steps ++ rest) := by
    rw [removed, gathered_append]
    exact List.mem_append_left _ hremoved
  rw [after_append] at hrest
  have hnone : ¬((a.after rest).session? id).isSome := fun hsome =>
    ((hrest.registered id).mp hsome).2 hgone
  refine ⟨Option.not_isSome_iff_eq_none.mp hnone, ?_, ?_⟩
  · rw [Bool.eq_false_iff, ne_eq, activate_eq_true_iff]
    exact fun hworks => hnone (isRegistered_iff_isValid.mp hworks.1).2
  · rw [Bool.eq_false_iff, ne_eq, remove_eq_true_iff hrest.session?_invalid]
    exact hnone

/-- A setup fails between two that work, and then the first session is removed. -/
def failedBetween : List Step :=
  [.setup { events := ["sched/*"] } {}, .rig (.failWritesTo "set_ftrace_filter"),
    .setup { functionGraph := true } {}, .rig .clearFailures, .setup { events := ["print"] } {},
    .activate ⟨2⟩, .remove ⟨1⟩]

theorem registry_after_failedBetween :
    let start := freshOver .idle smallCatalog {}
    let a := start.after failedBetween
    granted start failedBetween = [⟨1⟩, ⟨2⟩] ∧ removed start failedBetween = [⟨1⟩] ∧
      (a.session? ⟨2⟩).isSome ∧ ((remove ⟨2⟩).run a).1 = true ∧
      ∀ rest, (a.after rest).session? ⟨1⟩ = none ∧ ((activate ⟨1⟩).run (a.after rest)).1 = false ∧
        ((remove ⟨1⟩).run (a.after rest)).1 = false := by
  have hruns : granted (freshOver .idle smallCatalog {}) failedBetween = [⟨1⟩, ⟨2⟩] ∧
      removed (freshOver .idle smallCatalog {}) failedBetween = [⟨1⟩] ∧
      ⟨2⟩ ∈ ((freshOver .idle smallCatalog {}).after failedBetween).active := by
    decide +kernel
  obtain ⟨hgranted, hremoved, hactive⟩ := hruns
  obtain ⟨-, -, hrecording, hremovable, hgone, -⟩ := registry_after .idle smallCatalog {} failedBetween
  have hregistered := hrecording ⟨2⟩ hactive
  refine ⟨hgranted, hremoved, hregistered, (hremovable ⟨2⟩).mpr hregistered, hgone ⟨1⟩ ?_⟩
  rw [hremoved]
  exact List.mem_singleton_self _

end Arbiter

end TraceArbiter
