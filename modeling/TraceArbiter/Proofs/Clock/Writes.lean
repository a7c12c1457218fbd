import TraceArbiter.Proofs.Clock.Listing
import TraceArbiter.Proofs.Facility.Writes

/-!
# Writes to the clock listing

The file with the clocks takes the names of the clocks that it lists and no other value, and a name that
it takes moves the brackets. A listing stays a listing of the same clocks by that, so what is listed says
of every later write, too, whether it is taken and what is selected then.
-/

namespace TraceArbiter

open Std

/-- The second listing is the first one with the brackets on the words for the clock only. -/
def Clock.MovesBrackets (name before after : String) : Prop :=
  Text.words after = (Text.words before).map fun word =>
    if listed word = name then inBrackets name else listed word

namespace Simulation

variable {s : Simulation} {listing name : String}

theorem value?_of_read {path content : String} (h : Facility.read s path = .ok content) :
    s.value? path = some content := by
  change read s path = _ at h
  unfold read at h
  split at h
  · cases h
  · split at h <;> cases h
    assumption

theorem read_written (hread : Facility.read s Control.traceClock = .ok listing)
    (content value : String) :
    Facility.read (s.written Control.traceClock content value) Control.traceClock = .ok content := by
  change read s _ = _ at hread
  change read _ _ = _
  unfold read at hread ⊢
  split at hread
  · cases hread
  · next hreadable =>
    rw [if_neg (show ¬(s.written _ content value).failingReads.contains _ = true from hreadable),
      value?_written, if_pos rfl]

/-- The selected clock of a listing that can be read. -/
theorem clock_eq (hread : Facility.read s Control.traceClock = .ok listing) :
    Control.clock s = .ok ((Clock.selected? listing).getD "") := by
  rw [Control.clock, hread]
  rfl

theorem availableClocks_eq (hread : Facility.read s Control.traceClock = .ok listing) :
    Control.availableClocks s = Clock.available listing := by
  rw [Control.availableClocks, hread]

/-- The listing takes a clock that it lists, and nothing else. -/
theorem setClock_run (hread : Facility.read s Control.traceClock = .ok listing) (name : String) :
    (Control.setClock name : Access Simulation Unit).run.run s =
      if Control.traceClock ∈ s.failingWrites then
        (.error (.writeFailed Control.traceClock injected), s)
      else if name ∈ Clock.available listing then
        (.ok (), s.written Control.traceClock (Clock.select name listing) name)
      else (.error (.writeFailed Control.traceClock ("clock " ++ name ++ " not available")), s) := by
  have hstored : s.stored Control.traceClock name =
      if name ∈ Clock.available listing then
        .ok (s.poke Control.traceClock (Clock.select name listing))
      else .error (.writeFailed Control.traceClock ("clock " ++ name ++ " not available")) := by
    unfold stored
    rw [if_neg (by decide), if_pos rfl, value?_of_read hread]
    simp only [Option.getD_some, ExtTreeSet.contains_iff_mem]
  unfold Control.setClock
  rw [write_run_stored, hstored]
  by_cases hoffered : name ∈ Clock.available listing
  · rw [if_pos hoffered, if_pos hoffered]
    rfl
  · rw [if_neg hoffered, if_neg hoffered]

/-! ### One write after the other -/

/-- The facility after values have been written to the listing, whether they were taken or not. -/
def afterSelecting (s : Simulation) (values : List String) : Simulation :=
  values.foldl (fun s value => ((Control.setClock value : Access Simulation Unit).run.run s).2) s

/-- The listing is well formed, and it can be read and written. -/
structure OffersClocks (s : Simulation) (listing : String) : Prop where
  read : Facility.read s Control.traceClock = .ok listing
  isListing : Clock.IsListing listing
  writable : Control.traceClock ∉ s.failingWrites

namespace OffersClocks

variable (h : s.OffersClocks listing)

include h

theorem written (name : String) :
    (s.written Control.traceClock (Clock.select name listing) name).OffersClocks
      (Clock.select name listing) :=
  ⟨read_written h.read _ _, h.isListing.select name, h.writable⟩

/-- A write leaves a listing of the same clocks. -/
theorem setClock (name : String) :
    ∃ listing', ((Control.setClock name : Access Simulation Unit).run.run s).2.OffersClocks listing' ∧
      Clock.available listing' = Clock.available listing := by
  rw [setClock_run h.read, if_neg h.writable]
  split
  · exact ⟨_, h.written name, h.isListing.available_select name⟩
  · exact ⟨listing, h, rfl⟩

theorem afterSelecting (values : List String) :
    ∃ listing', (s.afterSelecting values).OffersClocks listing' ∧
      Clock.available listing' = Clock.available listing := by
  induction values generalizing s listing with
  | nil => exact ⟨listing, h, rfl⟩
  | cons value values ih =>
    obtain ⟨listing₁, hfirst, hsame₁⟩ := h.setClock value
    obtain ⟨listing', hrest, hsame⟩ := ih hfirst
    exact ⟨listing', hrest, hsame.trans hsame₁⟩

end OffersClocks

/-- However many values have been written to a listing that can be read and written, the next one is
taken exactly if it is a clock on offer. Then that clock is the selected one, the same clocks are on
offer, and the words for the clock are the ones in brackets; otherwise nothing changes. -/
theorem selects_offered (hread : Facility.read s Control.traceClock = .ok listing)
    (hlisting : Clock.IsListing listing) (hwritable : Control.traceClock ∉ s.failingWrites)
    (values : List String) (name : String) :
    let t := s.afterSelecting values
    let done := (Control.setClock name : Access Simulation Unit).run.run t
    Control.availableClocks t = Control.availableClocks s ∧
      (done.1 = .ok () ↔ name ∈ Control.availableClocks t) ∧
      (done.1 = .ok () → Control.clock done.2 = .ok name ∧
        Control.availableClocks done.2 = Control.availableClocks t ∧
        ∃ before after, Facility.read t Control.traceClock = .ok before ∧
          Facility.read done.2 Control.traceClock = .ok after ∧
            Clock.MovesBrackets name before after) ∧
      (done.1 ≠ .ok () → done.2 = t) := by
  intro t done
  have hoffers : s.OffersClocks listing := ⟨hread, hlisting, hwritable⟩
  obtain ⟨before, hbefore, hsame⟩ := hoffers.afterSelecting values
  have hdone : done = _ := setClock_run hbefore.read name
  rw [if_neg hbefore.writable] at hdone
  rw [availableClocks_eq hread, availableClocks_eq hbefore.read]
  refine ⟨hsame, ?_⟩
  by_cases hoffered : name ∈ Clock.available before
  · rw [if_pos hoffered] at hdone
    have hafter := hbefore.written name
    rw [hdone]
    refine ⟨iff_of_true rfl hoffered, fun _ => ⟨?_, ?_, before, _, hbefore.read, hafter.read, ?_⟩,
      fun hne => absurd rfl hne⟩
    · rw [clock_eq hafter.read, hbefore.isListing.selected?_select hoffered]
      rfl
    · rw [availableClocks_eq hafter.read, hbefore.isListing.available_select]
    · exact hbefore.isListing.words_select name
  · rw [if_neg hoffered] at hdone
    rw [hdone]
    exact ⟨iff_of_false nofun hoffered, nofun, fun _ => rfl⟩

/-- Two clocks are in brackets, and one is listed twice. -/
def crowdedListing : String :=
  "[local]\tglobal [boot]\u2003global\n"

theorem selects_offered_crowdedListing :
    let t := (idle.poke Control.traceClock crowdedListing).afterSelecting ["mono", "boot", ""]
    let done := (Control.setClock "global" : Access Simulation Unit).run.run t
    done.1 = .ok () ∧ Control.clock done.2 = .ok "global" ∧
      ∃ before after, Facility.read t Control.traceClock = .ok before ∧
        Facility.read done.2 Control.traceClock = .ok after ∧
          Clock.MovesBrackets "global" before after := by
  have hlisting : Clock.IsListing crowdedListing := by
    decide +kernel
  have hread : Facility.read (idle.poke Control.traceClock crowdedListing) Control.traceClock =
      .ok crowdedListing := by
    rfl
  have hwritable : Control.traceClock ∉
      (idle.poke Control.traceClock crowdedListing).failingWrites := by
    decide +kernel
  have hoffered : "global" ∈
      Control.availableClocks (idle.poke Control.traceClock crowdedListing) := by
    decide +kernel
  obtain ⟨hsame, htaken, hselects, -⟩ := selects_offered hread hlisting hwritable
    ["mono", "boot", ""] "global"
  rw [← hsame] at hoffered
  obtain ⟨hclock, -, hmoves⟩ := hselects (htaken.mpr hoffered)
  exact ⟨htaken.mpr hoffered, hclock, hmoves⟩

end Simulation

end TraceArbiter
