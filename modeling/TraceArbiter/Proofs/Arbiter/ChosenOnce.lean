import TraceArbiter.Proofs.Arbiter.Registry
import TraceArbiter.Proofs.Arbiter.Settled
import TraceArbiter.Proofs.Facility.Log

/-!
# What is chosen once

The size of the buffer and the clock are chosen by the first setup that works. The size is the last of
the essentials, so a setup that fails has not chosen it, and it is never 0, so 0 can stand for no
choice. The clock counts as chosen even if it could be neither read nor written. Main statement: in
every state that a run can reach, both are chosen or neither is, neither ever changes again, and each
of the two files has been written at most once.
-/

namespace TraceArbiter

open Std

namespace Simulation

/-- A write is logged exactly if it is taken. -/
theorem writesTo_write (s : Simulation) (path value : String) :
    let done := (Facility.write path value : Access Simulation Unit).run.run s
    (∃ e, done.1 = .error e ∧ done.2.writesTo path = s.writesTo path) ∨
      done.1 = .ok () ∧ done.2.writesTo path = s.writesTo path ++ [value] := by
  dsimp only
  rw [write_run_stored]
  split
  · exact .inl ⟨_, rfl, rfl⟩
  split
  · next s' hstored =>
    refine .inr ⟨rfl, ?_⟩
    have hlog : s'.log = s.log := by
      unfold stored at hstored
      dsimp only at hstored
      split at hstored
      · cases hstored
        rfl
      split at hstored
      · split at hstored <;> cases hstored
        rfl
      · cases hstored
        rfl
    simp [writesTo, logged, hlog]
  · exact .inl ⟨_, rfl, rfl⟩

end Simulation

namespace Arbiter

variable {a a' a'' : Arbiter Simulation} {r : Request} {id : SessionId}
  {given? : Option SessionId}

/-! ### Choices that stay -/

/-- The second state has made the choices of the first and has not written them since. -/
structure SameChoices (a a' : Arbiter Simulation) : Prop where
  pages : a'.installed.bufferPages = a.installed.bufferPages
  clock : a'.installed.clock = a.installed.clock
  sizes : a'.facility.writesTo Control.bufferSize = a.facility.writesTo Control.bufferSize
  names : a'.facility.writesTo Control.traceClock = a.facility.writesTo Control.traceClock
  settings : a'.settings = a.settings

namespace SameChoices

theorem refl (a : Arbiter Simulation) : SameChoices a a :=
  ⟨rfl, rfl, rfl, rfl, rfl⟩

theorem trans (h : SameChoices a a') (h' : SameChoices a' a'') : SameChoices a a'' where
  pages := h'.pages.trans h.pages
  clock := h'.clock.trans h.clock
  sizes := h'.sizes.trans h.sizes
  names := h'.names.trans h.names
  settings := h'.settings.trans h.settings

theorem of_frame {P : String → Prop} {view : Installed → Installed} {lastId : SessionId}
    {sessions : ExtTreeMap SessionId SessionConfig} {active : ExtTreeSet SessionId}
    (h : Frame P view { a with lastId, sessions, active } a')
    (hpages : ∀ i, (view i).bufferPages = i.bufferPages) (hclock : ∀ i, (view i).clock = i.clock)
    (hsizes : ¬P Control.bufferSize) (hnames : ¬P Control.traceClock) : SameChoices a a' where
  pages := h.belief Installed.bufferPages hpages
  clock := h.belief Installed.clock hclock
  sizes := h.facility.writesTo_eq hsizes
  names := h.facility.writesTo_eq hnames
  settings := h.settings

end SameChoices

theorem Settled.of_same (ha : a.Settled) (h : SameChoices a a') : a'.Settled := by
  constructor
  · rw [h.clock]
    exact ha.clock
  · rw [h.pages]
    exact ha.buffer

/-! ### The size of the buffer -/

theorem writesTo_pinBuffer (h : (pinBuffer r).run.run a = (.ok (), a'))
    (hopen : a.installed.bufferPages = 0) :
    a'.installed.clock = a.installed.clock ∧ a'.settings = a.settings ∧
      a'.facility.writesTo Control.traceClock = a.facility.writesTo Control.traceClock ∧
      a'.facility.writesTo Control.bufferSize = a.facility.writesTo Control.bufferSize ++
        [Text.writeDecimal (a'.installed.bufferPages * a.settings.pageSizeKb)] := by
  rw [pinBuffer_run] at h
  dsimp only at h
  rw [if_neg (not_not.mpr hopen)] at h
  split at h
  · cases h
  cases h
  refine ⟨rfl, rfl, ?_, ?_⟩
  · rw [Simulation.writesTo_written, if_neg (by decide), List.append_nil]
  · rw [Simulation.writesTo_written, if_pos rfl]

/-- Essentials that succeed end with the buffer, and have touched neither file before. -/
theorem essentials_pinned {filter : SyscallFilter}
    (h : (installEssentials r filter).run.run a = (.ok (), a')) :
    ∃ a₁, SameChoices a a₁ ∧ (pinBuffer r).run.run a₁ = (.ok (), a') := by
  cases essentials_case h with
  | installed _ a₁ _ hfilter hrest =>
    obtain ⟨engaged, a₂, hengage, hpin⟩ := installTracerAndBuffer_made hrest
    have hfiltered : SameChoices a a₁ := .of_frame ((framed_installSyscallFilter _).of_run hfilter)
      (fun _ => rfl) (fun _ => rfl) (by decide) (by decide)
    have hengaged : SameChoices a₁ a₂ := .of_frame ((framed_engageFunctionGraph r).of_run hengage)
      (fun _ => rfl) (fun _ => rfl) (by decide) (by decide)
    exact ⟨a₂, hfiltered.trans hengaged, hpin⟩

/-! ### The clock -/

theorem selectClock_selected (hselected : a.installed.clock.isSome) :
    (selectClock r).run a = ((), a) := by
  unfold selectClock
  rw [state_get_bind, if_neg]
  · rfl
  · rw [← Option.not_isSome, hselected]
    decide

/-- The clock is chosen whatever can be read and written, and at most its own name is written. -/
theorem selectClock_open (r : Request) (hopen : a.installed.clock = none) :
    let done := ((selectClock r).run a).2
    ∃ name values, done.installed.clock = some (.ofName name) ∧
      done.facility.writesTo Control.traceClock = a.facility.writesTo Control.traceClock ++ values ∧
      (values = [] ∨ values = [name]) := by
  dsimp only
  unfold selectClock
  rw [state_get_bind, if_pos (by rw [hopen]; rfl)]
  dsimp only
  split
  · next name _ =>
    have hwrite := a.facility.writesTo_write Control.traceClock name
    rw [state_bind, access_run]
    unfold Control.setClock
    match hrun : (Facility.write Control.traceClock name : Access Simulation Unit).run.run
      a.facility with
    | (.ok (), s) =>
      rw [hrun] at hwrite
      obtain ⟨e, he, -⟩ | ⟨-, hwritten⟩ := hwrite
      · cases he
      · exact ⟨name, [name], rfl, hwritten, .inr rfl⟩
    | (.error e, s) =>
      rw [hrun] at hwrite
      obtain ⟨-, -, hsame⟩ | ⟨hok, -⟩ := hwrite
      · exact ⟨_, [], rfl, hsame.trans (List.append_nil _).symm, .inl rfl⟩
      · cases hok
  · exact ⟨_, [], rfl, (List.append_nil _).symm, .inl rfl⟩

/-! ### Single steps -/

/-- What a step can do to the choices, by the id that it gives out. -/
inductive ChoiceCase (a : Arbiter Simulation) : Option SessionId → Arbiter Simulation → Prop
  | kept (given? : Option SessionId) (a' : Arbiter Simulation) (hsame : SameChoices a a')
      (hgiven : given? = none ∨ a.Settled) : ChoiceCase a given? a'
  | chosen (id : SessionId) (a' : Arbiter Simulation) (hpages : a.installed.bufferPages = 0)
      (hclock : a.installed.clock = none) (hsettled : a'.Settled)
      (hsettings : a'.settings = a.settings)
      (hsizes : a'.facility.writesTo Control.bufferSize = a.facility.writesTo Control.bufferSize ++
        [Text.writeDecimal (a'.installed.bufferPages * a.settings.pageSizeKb)])
      (hnames : ∃ name values, a'.installed.clock = some (.ofName name) ∧
        a'.facility.writesTo Control.traceClock = a.facility.writesTo Control.traceClock ++ values ∧
        (values = [] ∨ values = [name])) : ChoiceCase a (some id) a'

theorem ChoiceCase.same (h : ChoiceCase a given? a') (ha : a.Settled) : SameChoices a a' := by
  cases h with
  | kept _ _ hsame => exact hsame
  | chosen _ _ hopen => exact absurd hopen ha.buffer

/-- Completing a setup concerns the choices only where it selects the clock. -/
theorem completeSetup_clocked (r : Request) (id : SessionId) (plan : Plan) (a : Arbiter Simulation) :
    ∃ a₁, SameChoices a a₁ ∧
      SameChoices ((selectClock r).run a₁).2 ((completeSetup r id plan).run a).2 := by
  refine ⟨(startFresh.run a).2, ?_, ?_⟩
  · refine .of_frame (framed_startFresh a) (fun _ => rfl) (fun _ => rfl) ?_ ?_ <;> decide
  · rw [completeSetup_run]
    dsimp only
    have henabled := SameChoices.of_frame
      (framed_enableEvents plan.events ((selectClock r).run (startFresh.run a).2).2)
      (fun _ => rfl) (fun _ => rfl) (by decide) (by decide)
    have hjoined := SameChoices.of_frame (framed_joinAnnotations r
      ((enableEvents plan.events).run ((selectClock r).run (startFresh.run a).2).2).2)
      (fun _ => rfl) (fun _ => rfl) not_false not_false
    have hall := henabled.trans hjoined
    exact ⟨hall.pages, hall.clock, hall.sizes, hall.names, hall.settings⟩

theorem choice_completed {filter : SyscallFilter} {plan : Plan} {a₁ : Arbiter Simulation}
    (hboth : a.installed.bufferPages = 0 ↔ a.installed.clock = none)
    (h : (installEssentials r filter).run.run a = (.ok (), a₁)) :
    ChoiceCase a (some id) ((completeSetup r id plan).run a₁).2 := by
  obtain ⟨a₂, hsame, hpin⟩ := essentials_pinned h
  obtain ⟨a₃, hfresh, hdone⟩ := completeSetup_clocked r id plan a₁
  by_cases hopen : a.installed.bufferPages = 0
  · obtain ⟨hclock, hsettings, hnames, hsizes⟩ :=
      writesTo_pinBuffer hpin (hsame.pages.trans hopen)
    have hnone : a₃.installed.clock = none := by
      rw [hfresh.clock, hclock, hsame.clock, hboth.mp hopen]
    obtain ⟨name, values, hselected, hvalues, hor⟩ := selectClock_open r hnone
    have hselect := framed_selectClock r a₃
    have hpages := hselect.belief Installed.bufferPages fun _ => rfl
    refine .chosen id _ hopen (hboth.mp hopen)
      (settled_completeSetup r id plan (pinBuffer_pinned hpin)) ?_ ?_
      ⟨name, values, hdone.clock.trans hselected, ?_, hor⟩
    · rw [hdone.settings, hselect.settings, hfresh.settings, hsettings, hsame.settings]
    · rw [hdone.sizes, hselect.facility.writesTo_eq (by decide), hfresh.sizes, hsizes, hsame.sizes,
        hdone.pages, hpages, hfresh.pages, hsame.settings]
    · rw [hdone.names, hvalues, hfresh.names, hnames, hsame.names]
  · have hsettled : a.Settled := ⟨Option.ne_none_iff_isSome.mp fun h => hopen (hboth.mpr h), hopen⟩
    have hpinned : a₁ = a₂ := by
      rw [pinBuffer_run] at hpin
      dsimp only at hpin
      rw [if_pos (by rw [hsame.pages]; exact hopen)] at hpin
      cases hpin
      rfl
    subst hpinned
    rw [selectClock_selected] at hdone
    · exact .kept _ _ ((hsame.trans hfresh).trans hdone) (.inr hsettled)
    · rw [hfresh.clock, hsame.clock]
      exact hsettled.clock

theorem choice_case (hboth : a.installed.bufferPages = 0 ↔ a.installed.clock = none) (step : Step) :
    ChoiceCase a (step.granted? a) (step.apply a) := by
  cases step with
  | setup r report =>
    change ChoiceCase a
      (if ((setup r report).run a).1.1 = .invalid then none
        else some ((setup r report).run a).1.1) ((setup r report).run a).2
    match hrun : (setup r report).run a with
    | ((id, report'), a') =>
      cases setup_case hrun with
      | refused => exact .kept _ a (.refl a) (.inl rfl)
      | undone _ _ _ _ _ hundone =>
        exact .kept _ a' (.of_frame (frame_essentials_refused hundone) (fun _ => rfl) (fun _ => rfl)
          (by decide) (by decide)) (.inl rfl)
      | completed _ _ a₁ hid _ hdone =>
        rw [if_neg (SessionId.next?_ne_invalid hid)]
        exact choice_completed hboth hdone
  | activate id =>
    exact .kept _ _ (.of_frame (frame_activate id a) (fun _ => rfl) (fun _ => rfl) (by decide)
      (by decide)) (.inl rfl)
  | remove id =>
    exact .kept _ _ (.of_frame (frame_remove id a) (fun _ => rfl) (fun _ => rfl)
      (by unfold isRemovalFile; decide) (by unfold isRemovalFile; decide)) (.inl rfl)
  | resetTracer =>
    exact .kept _ _ (.of_frame (framed_resetTracer a) (fun _ => rfl) (fun _ => rfl) (by decide)
      (by decide)) (.inl rfl)
  | rig rigging =>
    refine .kept _ _ ⟨rfl, rfl, ?_, ?_, rfl⟩ (.inl rfl) <;> cases rigging <;> rfl
  | poke path value => exact .kept _ _ ⟨rfl, rfl, rfl, rfl, rfl⟩ (.inl rfl)

/-! ### Runs -/

/-- The choices of an arbiter that has given out some ids, over a facility that was written as in `s`
before. -/
structure ChoicesOf (s : Simulation) (given : List SessionId) (a : Arbiter Simulation) : Prop where
  pages : a.installed.bufferPages = 0 ↔ given = []
  clock : a.installed.clock = none ↔ given = []
  sizes : a.facility.writesTo Control.bufferSize = s.writesTo Control.bufferSize ++
    if given = [] then []
    else [Text.writeDecimal (a.installed.bufferPages * a.settings.pageSizeKb)]
  names : ∃ names, a.facility.writesTo Control.traceClock = s.writesTo Control.traceClock ++ names ∧
    (names = [] ∨ given ≠ [] ∧ ∃ name, names = [name] ∧ a.installed.clock = some (.ofName name))

namespace ChoicesOf

variable {s : Simulation} {given : List SessionId}

theorem both (h : ChoicesOf s given a) : a.installed.bufferPages = 0 ↔ a.installed.clock = none :=
  h.pages.trans h.clock.symm

theorem settled_iff (h : ChoicesOf s given a) : a.Settled ↔ given ≠ [] :=
  ⟨fun hsettled hgiven => hsettled.buffer (h.pages.mpr hgiven), fun hgiven =>
    ⟨Option.ne_none_iff_isSome.mp fun hnone => hgiven (h.clock.mp hnone),
      fun hzero => hgiven (h.pages.mp hzero)⟩⟩

theorem start (s : Simulation) (catalog : Catalog) (settings : Settings) :
    ChoicesOf s [] (freshOver s catalog settings) where
  pages := iff_of_true rfl rfl
  clock := iff_of_true rfl rfl
  sizes := (List.append_nil _).symm
  names := ⟨[], (List.append_nil _).symm, .inl rfl⟩

theorem turn (h : ChoicesOf s given a) (hcase : ChoiceCase a given? a') :
    ChoicesOf s (given ++ given?.toList) a' := by
  cases hcase with
  | kept _ _ hsame hgiven =>
    have hnil : given ++ given?.toList = [] ↔ given = [] := by
      obtain rfl | hsettled := hgiven
      · rw [Option.toList_none, List.append_nil]
      · exact iff_of_false (List.append_ne_nil_of_left_ne_nil (h.settled_iff.mp hsettled) _)
          (h.settled_iff.mp hsettled)
    obtain ⟨names, hnames, hname⟩ := h.names
    refine ⟨?_, ?_, ?_, names, hsame.names.trans hnames, ?_⟩
    · rw [hsame.pages, h.pages, hnil]
    · rw [hsame.clock, h.clock, hnil]
    · rw [hsame.sizes, h.sizes, hsame.pages, hsame.settings]
      simp only [hnil]
    · rw [ne_eq, hnil, hsame.clock]
      exact hname
  | chosen id _ hpages hclock hsettled hsettings hsizes hnames =>
    obtain rfl := h.pages.mp hpages
    have hnil : ([] : List SessionId) ++ [id] ≠ [] := List.cons_ne_nil _ _
    obtain ⟨names, hnobefore, rfl | ⟨hgiven, -⟩⟩ := h.names
    · obtain ⟨name, values, hselected, hvalues, hor⟩ := hnames
      refine ⟨iff_of_false hsettled.buffer hnil,
        iff_of_false (Option.ne_none_iff_isSome.mpr hsettled.clock) hnil, ?_, values, ?_,
        hor.imp_right fun hvalue => ⟨hnil, name, hvalue, hselected⟩⟩
      · rw [hsizes, h.sizes, if_pos rfl, List.append_nil, hsettings]
        exact congrArg _ (if_neg hnil).symm
      · rw [hvalues, hnobefore, List.append_nil]
    · exact absurd rfl hgiven

theorem after (h : ChoicesOf s given a) (steps : List Step) :
    ChoicesOf s (given ++ granted a steps) (a.after steps) := by
  induction steps generalizing a given with
  | nil =>
    change ChoicesOf s (given ++ []) a
    rw [List.append_nil]
    exact h
  | cons step steps ih =>
    have hrest := ih (h.turn (choice_case h.both step))
    rw [List.append_assoc] at hrest
    exact hrest

end ChoicesOf

/-- What is settled stays as it is. -/
theorem Settled.after (ha : a.Settled) (steps : List Step) :
    (a.after steps).installed.bufferPages = a.installed.bufferPages ∧
      (a.after steps).installed.clock = a.installed.clock := by
  refine (invariant_after (I := fun b => b.Settled ∧
    b.installed.bufferPages = a.installed.bufferPages ∧
    b.installed.clock = a.installed.clock) ?_ ⟨ha, rfl, rfl⟩ steps).2
  rintro b step ⟨hb, hpages, hclock⟩
  have hnone : b.installed.clock ≠ none := Option.ne_none_iff_isSome.mpr hb.clock
  have hsame := (choice_case (iff_of_false hb.buffer hnone) step).same hb
  exact ⟨hb.of_same hsame, hsame.pages.trans hpages, hsame.clock.trans hclock⟩

/-- Over any facility, with any settings and whatever fails and whatever others do: the size of the
buffer is chosen exactly if the clock is, which is exactly if some setup has worked; once chosen,
neither changes again; and in the whole run the size has been written at most once, for the pages that
are pinned, and a clock at most once, the one that is selected. -/
theorem chosen_once (s : Simulation) (catalog : Catalog) (settings : Settings) (steps : List Step) :
    let start := freshOver s catalog settings
    let a := start.after steps
    (a.installed.bufferPages = 0 ↔ a.installed.clock = none) ∧
      (a.installed.clock = none ↔ granted start steps = []) ∧
      (∀ rest, a.installed.bufferPages ≠ 0 →
        (a.after rest).installed.bufferPages = a.installed.bufferPages) ∧
      (∀ rest, a.installed.clock ≠ none → (a.after rest).installed.clock = a.installed.clock) ∧
      (∃ sizes, a.facility.writesTo Control.bufferSize = s.writesTo Control.bufferSize ++ sizes ∧
        sizes.length ≤ 1 ∧ ∀ size ∈ sizes,
          size = Text.writeDecimal (a.installed.bufferPages * a.settings.pageSizeKb)) ∧
      ∃ names, a.facility.writesTo Control.traceClock = s.writesTo Control.traceClock ++ names ∧
        names.length ≤ 1 ∧ ∀ name ∈ names, a.installed.clock = some (.ofName name) := by
  intro start a
  have ha : ChoicesOf s (granted start steps) a := (ChoicesOf.start s catalog settings).after steps
  have hsettled : granted start steps ≠ [] → a.Settled := ha.settled_iff.mpr
  refine ⟨ha.both, ha.clock, fun rest hpinned => ?_, fun rest hselected => ?_, ?_, ?_⟩
  · exact ((hsettled fun hnone => hpinned (ha.pages.mpr hnone)).after rest).1
  · exact ((hsettled fun hnone => hselected (ha.clock.mpr hnone)).after rest).2
  · refine ⟨_, ha.sizes, ?_⟩
    split <;> simp
  · obtain ⟨names, hnames, rfl | ⟨-, name, rfl, hclock⟩⟩ := ha.names
    · exact ⟨[], hnames, by simp⟩
    · exact ⟨[name], hnames, by simp [hclock]⟩

/-- The first size is refused, the next one is taken, and another session wants a larger one. -/
def threeSizes : List Step :=
  [.rig (.failWritesTo "buffer_size_kb"), .setup { bufferSizeKb := 512 } {}, .rig .clearFailures,
    .setup { bufferSizeKb := 1024 } {}, .setup { bufferSizeKb := 4096, useMonoRawClock := true } {}]

theorem chosen_once_threeSizes :
    let start := freshOver .idle smallCatalog {}
    let a := start.after threeSizes
    granted start threeSizes = [⟨1⟩, ⟨2⟩] ∧ a.facility.writesTo Control.bufferSize = ["1024"] ∧
      (∀ rest, (a.after rest).installed.bufferPages = 256) ∧
      ∀ rest, (a.after rest).installed.clock = some .boot := by
  have hruns : granted (freshOver .idle smallCatalog {}) threeSizes = [⟨1⟩, ⟨2⟩] ∧
      ((freshOver .idle smallCatalog {}).after threeSizes).facility.writesTo Control.bufferSize =
        ["1024"] ∧
      ((freshOver .idle smallCatalog {}).after threeSizes).installed.bufferPages = 256 ∧
      ((freshOver .idle smallCatalog {}).after threeSizes).installed.clock = some .boot := by
    decide +kernel
  obtain ⟨hgranted, hsizes, hpages, hclock⟩ := hruns
  obtain ⟨-, -, hpinned, hselected, -, -⟩ := chosen_once .idle smallCatalog {} threeSizes
  refine ⟨hgranted, hsizes, fun rest => ?_, fun rest => ?_⟩
  · exact (hpinned rest (by rw [hpages]; decide)).trans hpages
  · exact (hselected rest (by rw [hclock]; decide)).trans hclock

end Arbiter

end TraceArbiter
