import TraceArbiter.Proofs.Arbiter.ChosenOnce
import TraceArbiter.Proofs.Clock.Writes

/-!
# The clock that the first session selects

The first setup that works reads the listing of clocks and writes the one it prefers, unless that one
is selected already. What the arbiter then takes the clock to be is what the file shows: the preferred
clock, or the one that was selected before when the write was refused. The file is read before and
after the write, so this rests on the listing being of the same clocks once its brackets have moved.
-/

namespace TraceArbiter

open Std

/-- The clock that is preferred out of the offered ones while `current` is selected. -/
inductive Clock.Prefers (offered : ExtTreeSet String) (priority : List String) (wantMonoRaw : Bool)
    (current : String) : String → Prop
  | monoRaw (hwanted : wantMonoRaw) (hoffered : monoRawName ∈ offered) :
      Prefers offered priority wantMonoRaw current monoRawName
  | first (before after : List String) (name : String)
      (hraw : wantMonoRaw → monoRawName ∉ offered) (hpriority : priority = before ++ name :: after)
      (hbefore : ∀ other ∈ before, other ∉ offered) (hoffered : name ∈ offered) :
      Prefers offered priority wantMonoRaw current name
  | stays (hraw : wantMonoRaw → monoRawName ∉ offered) (hnone : ∀ name ∈ priority, name ∉ offered) :
      Prefers offered priority wantMonoRaw current current

theorem Clock.prefers_choose (offered : ExtTreeSet String) (priority : List String)
    (wantMonoRaw : Bool) (current : String) :
    Prefers offered priority wantMonoRaw current
      ((choose offered priority wantMonoRaw).getD current) := by
  unfold choose
  split
  · next hraw =>
    rw [Bool.and_eq_true, ExtTreeSet.contains_iff_mem] at hraw
    exact .monoRaw hraw.1 hraw.2
  · next hraw =>
    rw [Bool.and_eq_true, ExtTreeSet.contains_iff_mem, not_and] at hraw
    cases hfind : priority.find? offered.contains with
    | none => exact .stays hraw (by simpa using hfind)
    | some name =>
      obtain ⟨hoffered, before, after, hpriority, hbefore⟩ := List.find?_eq_some_iff_append.mp hfind
      refine .first before after name hraw hpriority (fun other hother hmem => ?_)
        (ExtTreeSet.contains_iff_mem.mp hoffered)
      have hnot := hbefore other hother
      rw [ExtTreeSet.contains_iff_mem.mpr hmem] at hnot
      cases hnot

/-- A clock that is preferred to the selected one is offered. -/
theorem Clock.Prefers.offered {offered : ExtTreeSet String} {priority : List String}
    {wantMonoRaw : Bool} {current preferred : String}
    (h : Prefers offered priority wantMonoRaw current preferred) (hne : preferred ≠ current) :
    preferred ∈ offered := by
  cases h with
  | monoRaw _ hoffered => exact hoffered
  | first _ _ _ _ _ _ hoffered => exact hoffered
  | stays => exact absurd rfl hne

namespace Arbiter

variable {a a' a'' : Arbiter Simulation} {r : Request} {listing : String}

/-- What the choice of a clock depends on, and the writes to the listing. -/
structure SameClock (a a' : Arbiter Simulation) : Prop where
  clock : a'.installed.clock = a.installed.clock
  content : a'.facility.value? Control.traceClock = a.facility.value? Control.traceClock
  names : a'.facility.writesTo Control.traceClock = a.facility.writesTo Control.traceClock
  failingWrites : a'.facility.failingWrites = a.facility.failingWrites
  failingReads : a'.facility.failingReads = a.facility.failingReads
  settings : a'.settings = a.settings

theorem Frame.sameClock {P : String → Prop} {view : Installed → Installed} (h : Frame P view a a')
    (hclock : ∀ i, (view i).clock = i.clock) (hfile : ¬P Control.traceClock) : SameClock a a' where
  clock := h.belief Installed.clock hclock
  content := h.facility.value?_eq _ hfile
  names := h.facility.writesTo_eq hfile
  failingWrites := h.facility.failingWrites_eq
  failingReads := h.facility.failingReads_eq
  settings := h.settings

namespace SameClock

theorem trans (h : SameClock a a') (h' : SameClock a' a'') : SameClock a a'' where
  clock := h'.clock.trans h.clock
  content := h'.content.trans h.content
  names := h'.names.trans h.names
  failingWrites := h'.failingWrites.trans h.failingWrites
  failingReads := h'.failingReads.trans h.failingReads
  settings := h'.settings.trans h.settings

theorem read_eq (h : SameClock a a') :
    Facility.read a'.facility Control.traceClock = Facility.read a.facility Control.traceClock :=
  Simulation.read_congr h.failingReads h.content

end SameClock

/-- The arbiter takes the facility to run on the clock that it does run on. -/
def RunsOn (a : Arbiter Simulation) (clock : String) : Prop :=
  Control.clock a.facility = .ok clock ∧ a.installed.clock = some (.ofName clock)

theorem RunsOn.of_same {clock : String} (ha : a.RunsOn clock) (h : SameClock a a') :
    a'.RunsOn clock := by
  refine ⟨?_, h.clock.trans ha.2⟩
  rw [Control.clock, h.read_eq]
  exact ha.1

/-! ### Selecting -/

/-- The write to the listing that a preference comes to, and the clock that it leaves the facility
running on. -/
structure Selects (current preferred : String) (a a' : Arbiter Simulation) : Prop where
  runsOn : a'.RunsOn
    (if Control.traceClock ∈ a.facility.failingWrites then current else preferred)
  names : a'.facility.writesTo Control.traceClock = a.facility.writesTo Control.traceClock ++
    if preferred = current ∨ Control.traceClock ∈ a.facility.failingWrites then [] else [preferred]

/-- A clock is written if it is preferred to the selected one. -/
theorem filter_ne_eq (choice : Option String) (current : String) :
    choice.filter (fun name => decide (name ≠ current)) =
      if choice.getD current = current then none else some (choice.getD current) := by
  cases choice with
  | none => simp
  | some name => by_cases h : name = current <;> simp [Option.filter, h]

theorem selects_selectClock (r : Request) (hopen : a.installed.clock = none)
    (hread : Facility.read a.facility Control.traceClock = .ok listing)
    (hlisting : Clock.IsListing listing) :
    let current := (Clock.selected? listing).getD ""
    ∃ preferred, Clock.Prefers (Clock.available listing) a.settings.clockPriority r.useMonoRawClock
        current preferred ∧ Selects current preferred a ((selectClock r).run a).2 := by
  intro current
  have hprefers := Clock.prefers_choose (Clock.available listing) a.settings.clockPriority
    r.useMonoRawClock current
  have hcurrent : (Control.clock a.facility).toOption.getD "" = current := by
    rw [Simulation.clock_eq hread]
    rfl
  refine ⟨_, hprefers, ?_⟩
  unfold selectClock
  rw [state_get_bind, if_pos (by rw [hopen]; rfl)]
  dsimp only
  rw [hcurrent, Simulation.availableClocks_eq hread, filter_ne_eq]
  generalize Option.getD _ current = preferred at hprefers
  by_cases hstays : preferred = current
  · rw [if_pos hstays]
    constructor
    · rw [hstays, ite_self]
      exact ⟨Simulation.clock_eq hread, rfl⟩
    · rw [if_pos (.inl hstays), List.append_nil]
      rfl
  have hoffered := hprefers.offered hstays
  rw [if_neg hstays]
  dsimp only
  rw [state_bind, access_run, Simulation.setClock_run hread, if_pos hoffered]
  by_cases hrefused : Control.traceClock ∈ a.facility.failingWrites
  · rw [if_pos hrefused]
    constructor
    · rw [if_pos hrefused]
      exact ⟨Simulation.clock_eq hread, rfl⟩
    · rw [if_pos (.inr hrefused), List.append_nil]
      rfl
  · rw [if_neg hrefused]
    constructor
    · rw [if_neg hrefused]
      refine ⟨?_, rfl⟩
      have hselected := Simulation.clock_eq
        (Simulation.read_written hread (Clock.select preferred listing) preferred)
      rw [hlisting.selected?_select hoffered] at hselected
      exact hselected
    · rw [if_neg (not_or.mpr ⟨hstays, hrefused⟩)]
      exact Simulation.writesTo_written.trans (by rw [if_pos rfl])

/-! ### The first setup that works -/

/-- Completing a setup concerns the clock only where it selects one. -/
theorem completeSetup_clockSelected (r : Request) (id : SessionId) (plan : Plan)
    (a : Arbiter Simulation) :
    ∃ a₁, SameClock a a₁ ∧
      SameClock ((selectClock r).run a₁).2 ((completeSetup r id plan).run a).2 := by
  refine ⟨(startFresh.run a).2, (framed_startFresh a).sameClock (fun _ => rfl) (by decide), ?_⟩
  rw [completeSetup_run]
  dsimp only
  have henabled := (framed_enableEvents plan.events
    ((selectClock r).run (startFresh.run a).2).2).sameClock (fun _ => rfl) (by decide)
  have hjoined := (framed_joinAnnotations r
    ((enableEvents plan.events).run ((selectClock r).run (startFresh.run a).2).2).2).sameClock
    (fun _ => rfl) not_false
  have hall := henabled.trans hjoined
  exact ⟨hall.clock, hall.content, hall.names, hall.failingWrites, hall.failingReads, hall.settings⟩

/-- Over any facility whose listing of clocks is well formed and can be read, whatever fails and
whatever others do: after the first setup that works, the clock that the arbiter takes the facility to
run on is the selected one. It is the one that the request and the settings prefer, for which there is
at most one write, and none if it was selected before; and it is the one selected before if the write
was refused. -/
theorem clock_firstSetup (s : Simulation) (catalog : Catalog) (settings : Settings)
    (steps : List Step) (r : Request) (report : SetupReport) (listing : String) :
    let a := (freshOver s catalog settings).after steps
    let done := (setup r report).run a
    granted (freshOver s catalog settings) steps = [] → done.1.1 ≠ .invalid →
      Facility.read a.facility Control.traceClock = .ok listing → Clock.IsListing listing →
      let current := (Clock.selected? listing).getD ""
      let refused := Control.traceClock ∈ a.facility.failingWrites
      ∃ preferred,
        Clock.Prefers (Clock.available listing) a.settings.clockPriority r.useMonoRawClock current
          preferred ∧
        done.2.RunsOn (if refused then current else preferred) ∧
        done.2.facility.writesTo Control.traceClock = a.facility.writesTo Control.traceClock ++
          if preferred = current ∨ refused then [] else [preferred] := by
  intro a done hfirst hworks hread hlisting current refused
  have hopen : a.installed.clock = none :=
    ((ChoicesOf.start s catalog settings).after steps).clock.mpr hfirst
  have hrun : (setup r report).run a = ((done.1.1, done.1.2), done.2) := rfl
  obtain ⟨a₁, -, hdone, hresult, -⟩ := setup_completed hrun hworks
  obtain ⟨a₂, hfresh, hrest⟩ := completeSetup_clockSelected r done.1.1 (r.plan a.catalog) a₁
  have hessentials : SameClock a a₁ :=
    ((framed_installEssentials r _).of_run hdone).sameClock (fun _ => rfl) (by decide)
  have hbefore := hessentials.trans hfresh
  obtain ⟨preferred, hprefers, hselects⟩ := selects_selectClock r (hbefore.clock.trans hopen)
    (hbefore.read_eq.trans hread) hlisting
  rw [hbefore.settings] at hprefers
  have hruns := hselects.runsOn.of_same hrest
  have hnames := hrest.names.trans hselects.names
  rw [hbefore.failingWrites] at hruns hnames
  rw [hbefore.names] at hnames
  rw [← hresult] at hruns hnames
  exact ⟨preferred, hprefers, hruns, hnames⟩

/-- Settings that prefer one clock only. -/
def preferUptime : Settings :=
  { clockPriority := ["uptime"] }

/-- The first setup is refused its buffer, and then somebody changes the listing of clocks. -/
def scarceClocks : List Step :=
  [.rig (.failWritesTo Control.bufferSize), .setup {} {}, .rig .clearFailures,
    .poke Control.traceClock "[local]\tuptime  mono_raw"]

/-- The setup after it wants the raw clock and gets it, whatever the settings prefer. -/
theorem clock_firstSetup_scarceClocks :
    let done := (setup { useMonoRawClock := true } {}).run
      ((freshOver .idle smallCatalog preferUptime).after scarceClocks)
    done.1.1 = ⟨1⟩ ∧ done.2.RunsOn "mono_raw" := by
  have hruns : granted (freshOver .idle smallCatalog preferUptime) scarceClocks = [] ∧
      ((setup { useMonoRawClock := true } {}).run
        ((freshOver .idle smallCatalog preferUptime).after scarceClocks)).1.1 = ⟨1⟩ ∧
      Facility.read ((freshOver .idle smallCatalog preferUptime).after scarceClocks).facility
        Control.traceClock = .ok "[local]\tuptime  mono_raw" ∧
      Control.traceClock ∉
        ((freshOver .idle smallCatalog preferUptime).after scarceClocks).facility.failingWrites := by
    decide +kernel
  have hlisting : Clock.IsListing "[local]\tuptime  mono_raw" ∧
      Clock.monoRawName ∈ Clock.available "[local]\tuptime  mono_raw" := by
    decide +kernel
  obtain ⟨hfirst, hid, hread, htaken⟩ := hruns
  obtain ⟨hlisting, hraw⟩ := hlisting
  obtain ⟨preferred, hprefers, hruns, -⟩ := clock_firstSetup .idle smallCatalog preferUptime
    scarceClocks { useMonoRawClock := true } {} _ hfirst (by rw [hid]; decide) hread hlisting
  rw [if_neg htaken] at hruns
  refine ⟨hid, ?_⟩
  cases hprefers with
  | monoRaw => exact hruns
  | first _ _ _ hnot => exact absurd hraw (hnot rfl)
  | stays hnot => exact absurd hraw (hnot rfl)

end Arbiter

end TraceArbiter
