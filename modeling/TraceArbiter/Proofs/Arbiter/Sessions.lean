import Mathlib.Data.List.Nodup
import TraceArbiter.Proofs.Arbiter.Bounds
import TraceArbiter.Proofs.Arbiter.Stages

/-!
# The sessions of an arbiter

How setups and removals change the sessions, and the files and beliefs that they touch after the
essentials. The id that a setup gives out belongs to no session, because no session has an id above
the last one given out, so a session that is registered never takes the place of another.
-/

namespace TraceArbiter

open Std

namespace Arbiter

variable {a : Arbiter Simulation} {id : SessionId}

theorem isRegistered_iff_isValid : a.isRegistered id ↔ id.isValid ∧ (a.session? id).isSome := by
  unfold isRegistered session?
  rw [Bool.and_eq_true, ExtTreeMap.contains_eq_isSome_getElem?]

/-! ### Refused setups -/

theorem framed_undoFilter (wrote : Bool) :
    Framed (· ∈ Control.syscallFilters) Installed.withoutSyscallFilter (undoFilter wrote) := by
  cases wrote with
  | true => exact framed_restoreSyscallFilter
  | false => exact framed_recallSyscallFilter

/-! ### Completed setups -/

/-- The files that a setup writes once its essentials are installed. -/
def isCompletionFile (path : String) : Prop :=
  Simulation.isSwitch path ∨ path = Control.trace ∨ path = Control.traceClock

/-- Apart from the new session and its id, completing a setup concerns events, the clock and
annotations only. -/
theorem frame_completeSetup (r : Request) (id : SessionId) (plan : Plan) (a : Arbiter Simulation) :
    Frame isCompletionFile (fun i => i.withoutEvents.withoutClock.withoutAnnotations)
      { a with
        lastId := ((completeSetup r id plan).run a).2.lastId
        sessions := ((completeSetup r id plan).run a).2.sessions }
      ((completeSetup r id plan).run a).2 := by
  have hfresh : Framed isCompletionFile
      (fun i => i.withoutEvents.withoutClock.withoutAnnotations) startFresh :=
    framed_startFresh.mono (fun _ h => h.imp_right .inl) fun _ => rfl
  have hclock : Framed isCompletionFile
      (fun i => i.withoutEvents.withoutClock.withoutAnnotations) (selectClock r) :=
    (framed_selectClock r).mono (fun _ h => .inr (.inr h)) fun _ => rfl
  have henable : Framed isCompletionFile
      (fun i => i.withoutEvents.withoutClock.withoutAnnotations) (enableEvents plan.events) :=
    (framed_enableEvents plan.events).mono (fun _ h => .inl h) fun _ => rfl
  have hjoin : Framed isCompletionFile
      (fun i => i.withoutEvents.withoutClock.withoutAnnotations) (joinAnnotations r) :=
    (framed_joinAnnotations r).mono (fun _ h => h.elim) fun _ => rfl
  have hall := ((hfresh a).trans (hclock _)).trans ((henable _).trans (hjoin _))
  exact { hall with lastId := rfl, sessions := rfl }

/-- A completed setup registers one session, with the system calls that were planned. -/
theorem sessions_completeSetup (r : Request) (id : SessionId) (plan : Plan) (a : Arbiter Simulation) :
    ((completeSetup r id plan).run a).2.lastId = id ∧ ∃ config : SessionConfig,
      config.syscallFilter = plan.syscallFilter ∧
      ((completeSetup r id plan).run a).2.sessions = a.sessions.insert id config := by
  refine ⟨rfl, ?_⟩
  rw [completeSetup_run]
  refine ⟨_, ?_, congrArg (fun sessions : ExtTreeMap SessionId SessionConfig =>
    sessions.insert id _) ?_⟩
  · rfl
  · rw [(framed_joinAnnotations r _).sessions, (framed_enableEvents plan.events _).sessions,
      (framed_selectClock r _).sessions, (framed_startFresh a).sessions]

/-- A setup registers a session under the id it gives, and gives no id when it registers none. -/
theorem sessions_setup {r : Request} {report report' : SetupReport} {a' : Arbiter Simulation}
    (h : (setup r report).run a = ((id, report'), a')) :
    id = .invalid ∧ a'.sessions = a.sessions ∨
      a.lastId.next? = some id ∧ ∃ config, a'.sessions = a.sessions.insert id config := by
  cases setup_case h with
  | refused => exact .inl ⟨rfl, rfl⟩
  | undone _ _ _ _ _ hundone =>
    exact .inl ⟨rfl, ((framed_installEssentials r _).of_run hundone).sessions⟩
  | completed _ _ a₁ hid _ hdone =>
    obtain ⟨-, config, -, hsessions⟩ := sessions_completeSetup r id (r.plan a.catalog) a₁
    rw [((framed_installEssentials r _).of_run hdone).sessions] at hsessions
    exact .inr ⟨hid, config, hsessions⟩

def isSetupFile (path : String) : Prop :=
  path ∈ essentialFiles ∨ isCompletionFile path

/-- Apart from the new session and its id, a setup changes files of its own and beliefs only. -/
theorem frame_setup (r : Request) (report : SetupReport) (a : Arbiter Simulation) :
    Frame isSetupFile (fun _ => {})
      { a with
        lastId := ((setup r report).run a).2.lastId
        sessions := ((setup r report).run a).2.sessions }
      ((setup r report).run a).2 := by
  match hrun : (setup r report).run a with
  | ((id, report'), a') =>
    cases setup_case hrun with
    | refused => exact .refl _ _ a
    | undone _ _ _ _ _ hundone =>
      have hessentials : Frame isSetupFile (fun _ => {}) a a' :=
        ((framed_installEssentials r _).of_run hundone).mono (fun _ => .inl) fun _ => rfl
      exact { hessentials with lastId := rfl, sessions := rfl }
    | completed _ _ a₁ _ _ hdone =>
      have hessentials : Frame isSetupFile (fun _ => {}) a a₁ :=
        ((framed_installEssentials r _).of_run hdone).mono (fun _ => .inl) fun _ => rfl
      let done := ((completeSetup r id (r.plan a.catalog)).run a₁).2
      have hregistered : Frame isSetupFile (fun _ => {})
          { a with lastId := done.lastId, sessions := done.sessions }
          { a₁ with lastId := done.lastId, sessions := done.sessions } :=
        { hessentials with lastId := rfl, sessions := rfl }
      have hcomplete := frame_completeSetup r id (r.plan a.catalog) a₁
      exact hregistered.trans (hcomplete.mono (fun _ => .inr) fun _ => rfl)

theorem lastId_setup {r : Request} {report report' : SetupReport} {a' : Arbiter Simulation}
    (h : (setup r report).run a = ((id, report'), a')) (hid : id ≠ .invalid) : a'.lastId = id := by
  obtain ⟨a₁, -, -, rfl, -⟩ := setup_completed h hid
  exact (sessions_completeSetup r id (r.plan a.catalog) a₁).1

/-! ### Removals -/

/-- The files that a removal writes before it stops recording for its session. -/
def isShrinkFile (path : String) : Prop :=
  path ∈ Control.syscallFilters ∨ Simulation.isSwitch path

def isRemovalFile (path : String) : Prop :=
  path ∈ Control.syscallFilters ∨ Simulation.isSwitch path ∨ path = Control.tracingOn

theorem isShrinkFile.isRemovalFile {path : String} (h : isShrinkFile path) : isRemovalFile path :=
  h.imp_right .inl

theorem frame_beforeEvents (a : Arbiter Simulation) (id : SessionId) :
    Frame (· ∈ Control.syscallFilters) (fun i => i.withoutAnnotations.withoutSyscallFilter)
      (a.without id) (a.beforeEvents id) := by
  have hannotations : Framed (· ∈ Control.syscallFilters)
      (fun i => i.withoutAnnotations.withoutSyscallFilter) shrinkAnnotations :=
    framed_shrinkAnnotations.mono (fun _ h => h.elim) fun _ => rfl
  have hfilter : Framed (· ∈ Control.syscallFilters)
      (fun i => i.withoutAnnotations.withoutSyscallFilter) shrinkSyscallFilter :=
    framed_shrinkSyscallFilter.mono (fun _ h => h) fun _ => rfl
  exact (hannotations (a.without id)).trans (hfilter _)

/-- A removal takes back what its session alone wanted, which concerns annotations, the filter on
system calls and events only, and then stops recording for it. -/
theorem remove_case (hregistered : a.isRegistered id) :
    ∃ shrunk, Frame isShrinkFile
        (fun i => i.withoutAnnotations.withoutSyscallFilter.withoutEvents) (a.without id) shrunk ∧
      (remove id).run a = (true, ((deactivate id).run shrunk).2) := by
  have hevents : Framed isShrinkFile
      (fun i => i.withoutAnnotations.withoutSyscallFilter.withoutEvents) shrinkEvents :=
    framed_shrinkEvents.mono (fun _ h => .inr h) fun _ => rfl
  refine ⟨_, Frame.trans ?_ (hevents (a.beforeEvents id)), remove_registered_run hregistered⟩
  exact (frame_beforeEvents a id).mono (fun _ h => .inl h) fun _ => rfl

/-- Apart from its session, a removal concerns annotations, the filter on system calls and events
only. -/
theorem frame_remove (id : SessionId) (a : Arbiter Simulation) :
    Frame isRemovalFile (fun i => i.withoutAnnotations.withoutSyscallFilter.withoutEvents)
      { a with
        sessions := ((remove id).run a).2.sessions
        active := ((remove id).run a).2.active }
      ((remove id).run a).2 := by
  by_cases hregistered : a.isRegistered id
  · obtain ⟨shrunk, hshrunk, hrun⟩ := remove_case hregistered
    rw [hrun]
    have hparts : Frame isRemovalFile
        (fun i => i.withoutAnnotations.withoutSyscallFilter.withoutEvents) (a.without id) shrunk :=
      hshrunk.mono (fun _ h => h.isRemovalFile) fun _ => rfl
    have hactive : Frame isRemovalFile
        (fun i => i.withoutAnnotations.withoutSyscallFilter.withoutEvents)
        { a.without id with active := ((deactivate id).run shrunk).2.active }
        { shrunk with active := ((deactivate id).run shrunk).2.active } :=
      { hparts with active := rfl }
    have hstop : Frame isRemovalFile
        (fun i => i.withoutAnnotations.withoutSyscallFilter.withoutEvents)
        { shrunk with active := ((deactivate id).run shrunk).2.active }
        ((deactivate id).run shrunk).2 :=
      (frame_deactivate id shrunk).mono (fun _ h => .inr (.inr h)) fun _ => rfl
    exact { hactive.trans hstop with sessions := rfl }
  · rw [remove_run, if_neg hregistered]
    exact .refl _ _ a

theorem sessions_remove (id : SessionId) (a : Arbiter Simulation) :
    ((remove id).run a).2.sessions =
      if a.isRegistered id then a.sessions.erase id else a.sessions := by
  split
  · next hregistered =>
    obtain ⟨shrunk, hshrunk, hrun⟩ := remove_case hregistered
    rw [hrun, (frame_deactivate id shrunk).sessions]
    exact hshrunk.sessions
  · next hunknown => rw [remove_run, if_neg hunknown]

theorem configs_remove (hregistered : a.isRegistered id) :
    ((remove id).run a).2.configs = (a.without id).configs := by
  unfold configs
  rw [sessions_remove, if_pos hregistered]
  rfl

/-! ### Ids -/

/-- No session has an id that is still to be given out. -/
def IdsAllotted (a : Arbiter Simulation) : Prop :=
  ∀ id config, a.session? id = some config → id.raw.toNat ≤ a.lastId.raw.toNat

namespace IdsAllotted

variable {a' : Arbiter Simulation}

theorem of_frame {P : String → Prop} {view : Installed → Installed} {active : ExtTreeSet SessionId}
    (ha : a.IdsAllotted) (h : Frame P view { a with active } a') : a'.IdsAllotted := by
  intro id config hconfig
  unfold session? at hconfig
  rw [h.sessions] at hconfig
  rw [h.lastId]
  exact ha id config hconfig

theorem session?_next (ha : a.IdsAllotted) (hid : a.lastId.next? = some id) :
    a.session? id = none := by
  cases hconfig : a.session? id with
  | none => rfl
  | some config =>
    have hle := ha id config hconfig
    rw [SessionId.toNat_next? hid] at hle
    omega

theorem register (ha : a.IdsAllotted) (hid : a.lastId.next? = some id) (config : SessionConfig) :
    ({ a with lastId := id, sessions := a.sessions.insert id config } :
      Arbiter Simulation).IdsAllotted := by
  have hnext := SessionId.toNat_next? hid
  intro id' config' hconfig
  change (a.sessions.insert id config)[id']? = some config' at hconfig
  rw [ExtTreeMap.getElem?_insert] at hconfig
  dsimp only
  split at hconfig
  · next heq =>
    obtain rfl := LawfulEqOrd.eq_of_compare heq
    exact Nat.le_refl _
  · have hle := ha id' config' hconfig
    omega

theorem completeSetup (ha : a.IdsAllotted) (r : Request) (plan : Plan)
    (hid : a.lastId.next? = some id) : ((completeSetup r id plan).run a).2.IdsAllotted := by
  have hframe := frame_completeSetup r id plan a
  obtain ⟨hlast, config, -, hsessions⟩ := sessions_completeSetup r id plan a
  rw [hlast, hsessions] at hframe
  exact (ha.register hid config).of_frame hframe

theorem without (ha : a.IdsAllotted) (id : SessionId) : (a.without id).IdsAllotted :=
  fun id' config hconfig => ha id' config (session?_of_without hconfig)

end IdsAllotted

/-! ### Configurations -/

theorem mem_configs {config : SessionConfig} :
    config ∈ a.configs ↔ ∃ id, a.session? id = some config := by
  unfold configs session?
  rw [List.mem_map]
  constructor
  · rintro ⟨⟨id, config⟩, hmem, rfl⟩
    exact ⟨id, ExtTreeMap.mem_toList_iff_getElem?_eq_some.mp hmem⟩
  · rintro ⟨id, hconfig⟩
    exact ⟨(id, config), ExtTreeMap.mem_toList_iff_getElem?_eq_some.mpr hconfig, rfl⟩

theorem configs_insert {config : SessionConfig} (hid : a.session? id = none) :
    ((a.sessions.insert id config).toList.map (·.2)).Perm (config :: a.configs) := by
  have hnodup : ∀ sessions : ExtTreeMap SessionId SessionConfig, sessions.toList.Nodup := by
    intro sessions
    refine ExtTreeMap.distinct_keys_toList.imp ?_
    rintro x y hne rfl
    exact hne ReflOrd.compare_self
  have hnew : (id, config) ∉ a.sessions.toList := by
    rw [ExtTreeMap.mem_toList_iff_getElem?_eq_some]
    intro hconfig
    rw [session?, hconfig] at hid
    cases hid
  have hperm : (a.sessions.insert id config).toList.Perm ((id, config) :: a.sessions.toList) := by
    rw [List.perm_ext_iff_of_nodup (hnodup _) (List.nodup_cons.mpr ⟨hnew, hnodup _⟩)]
    rintro ⟨id', config'⟩
    rw [List.mem_cons, ExtTreeMap.mem_toList_iff_getElem?_eq_some,
      ExtTreeMap.mem_toList_iff_getElem?_eq_some, ExtTreeMap.getElem?_insert]
    by_cases heq : compare id id' = .eq
    · obtain rfl := LawfulEqOrd.eq_of_compare heq
      rw [session?] at hid
      simp [hid, eq_comm]
    · have hne : id' ≠ id := by
        rintro rfl
        exact heq ReflOrd.compare_self
      simp [heq, hne]
  exact hperm.map (·.2)

end Arbiter

end TraceArbiter
