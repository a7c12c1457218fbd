import TraceArbiter.Proofs.Arbiter.ChosenOnce
import TraceArbiter.Proofs.Buffer.Pages
import TraceArbiter.Proofs.Text.Numeral

/-!
# The size of the pinned buffer

A setup that pins the buffer rounds the request up to pages and writes their size. The page that it
counts by is one kilobyte if the settings give none, but the size is worked out with the page of the
settings. Main statement: the size that is written is positive, holds what was asked for and is the
size of the pages that are reported, exactly if the settings give a page. A page of no size makes
every buffer one of no size.
-/

namespace TraceArbiter

open Std

/-- The size in kilobytes suits the request, and is the size of the pages under the granularity that
they were counted by. -/
structure Settings.SizeSuits (s : Settings) (requestedKb : UInt64) (pages kb : Nat) : Prop where
  positive : 0 < kb
  covers : ¬s.Capped requestedKb → s.wantedKb requestedKb ≤ kb
  same : kb = pages * s.pageKb

namespace Settings

variable {s : Settings} {requestedKb : UInt64}

theorem sizeSuits_iff :
    let pages := s.bufferPages requestedKb
    s.SizeSuits requestedKb pages.toNat (pages.toNat * s.pageSizeKb.toNat) ↔ s.pageSizeKb ≠ 0 := by
  intro pages
  constructor
  · rintro ⟨hpositive, -, -⟩ hzero
    rw [hzero, UInt64.toNat_zero, Nat.mul_zero] at hpositive
    exact absurd hpositive (Nat.lt_irrefl 0)
  · intro hpage
    rw [← s.pageKb_eq_pageSizeKb hpage]
    exact ⟨Nat.mul_pos (s.one_le_bufferPages requestedKb) s.pageKb_pos,
      s.wantedKb_le_bufferPages, rfl⟩

end Settings

namespace Arbiter

variable {a a' : Arbiter Simulation} {r : Request} {report report' : SetupReport} {id : SessionId}

/-- The pages that the setup pins, with the size that it has written for them. -/
structure Pins (r : Request) (a a' : Arbiter Simulation) : Prop where
  pages : a'.installed.bufferPages = a.settings.bufferPages r.bufferSizeKb
  written : a'.facility.writesTo Control.bufferSize = a.facility.writesTo Control.bufferSize ++
    [Text.writeDecimal (a'.installed.bufferPages * a.settings.pageSizeKb)]
  held : a'.facility.value? Control.bufferSize =
    some (Text.writeDecimal (a'.installed.bufferPages * a.settings.pageSizeKb))

theorem pins_essentials {filter : SyscallFilter}
    (h : (installEssentials r filter).run.run a = (.ok (), a'))
    (hopen : a.installed.bufferPages = 0) : Pins r a a' := by
  obtain ⟨a₁, hsame, hpin⟩ := essentials_pinned h
  have hopen₁ := hsame.pages.trans hopen
  obtain ⟨-, -, -, hsizes⟩ := writesTo_pinBuffer hpin hopen₁
  rw [hsame.sizes, hsame.settings] at hsizes
  rw [pinBuffer_run] at hpin
  dsimp only at hpin
  rw [if_neg (not_not.mpr hopen₁), hsame.settings] at hpin
  split at hpin <;> cases hpin
  refine ⟨rfl, hsizes, ?_⟩
  dsimp only
  rw [Simulation.value?_written, if_pos rfl]

/-- Only the essentials of a setup that works pin the buffer. -/
theorem pins_setup (h : (setup r report).run a = ((id, report'), a'))
    (hopen : a.installed.bufferPages = 0) (hpinned : a'.installed.bufferPages ≠ 0) :
    Pins r a a' := by
  cases setup_case h with
  | refused => exact absurd hopen hpinned
  | undone _ _ _ _ _ hundone =>
    have hframe := frame_essentials_refused hundone
    rw [hframe.belief Installed.bufferPages fun _ => rfl] at hpinned
    exact absurd hopen hpinned
  | completed _ _ a₁ _ _ hdone =>
    have hpins := pins_essentials hdone hopen
    have hframe := frame_completeSetup r id (r.plan a.catalog) a₁
    have hpages := hframe.belief Installed.bufferPages fun _ => rfl
    have hfile : ¬isCompletionFile Control.bufferSize := by
      unfold isCompletionFile
      decide
    constructor
    · rw [hpages]
      exact hpins.pages
    · rw [hpages, hframe.facility.writesTo_eq hfile]
      exact hpins.written
    · rw [hpages, hframe.facility.value?_eq _ hfile]
      exact hpins.held

/-- When a setup pins the buffer and the size of its pages fits in a machine word, that size is written
once. It is positive, holds what was asked for unless the pages were limited, and is the size of the
reported pages as they were counted, exactly if the settings give a page. -/
theorem pinnedSize_suits_iff (r : Request) (report : SetupReport) (a : Arbiter Simulation) :
    let a' := ((setup r report).run a).2
    a.installed.bufferPages = 0 → a'.installed.bufferPages ≠ 0 →
      a'.installed.bufferPages.toNat * a.settings.pageSizeKb.toNat < UInt64.size →
      ∃ kb : UInt64,
        a'.facility.writesTo Control.bufferSize =
          a.facility.writesTo Control.bufferSize ++ [Text.writeDecimal kb] ∧
        a'.facility.value? Control.bufferSize = some (Text.writeDecimal kb) ∧
        (a.settings.SizeSuits r.bufferSizeKb a'.installed.bufferPages.toNat kb.toNat ↔
          a.settings.pageSizeKb ≠ 0) := by
  intro a' hopen hpinned hfits
  have hpins : Pins r a a' := pins_setup rfl hopen hpinned
  refine ⟨_, hpins.written, hpins.held, ?_⟩
  rw [UInt64.toNat_mul, Nat.mod_eq_of_lt hfits, hpins.pages]
  exact Settings.sizeSuits_iff

/-- Large pages, of which a buffer may have two. -/
def largePages : Settings :=
  { pageSizeKb := 16, maxBufferPages := 2 }

/-- A request for a little more than one page gets both. -/
theorem pinnedSize_suits_largePages :
    let done := (setup { bufferSizeKb := 17 } {}).run (fresh smallCatalog largePages)
    done.2.facility.writesTo Control.bufferSize = ["32"] ∧
      largePages.SizeSuits 17 done.2.installed.bufferPages.toNat 32 := by
  intro done
  have hruns : done.2.installed.bufferPages = 2 ∧
      done.2.facility.writesTo Control.bufferSize = [Text.writeDecimal 32] := by
    decide +kernel
  obtain ⟨hpages, hwritten⟩ := hruns
  obtain ⟨kb, hsize, -, hsuits⟩ := pinnedSize_suits_iff { bufferSizeKb := 17 } {}
    (fresh smallCatalog largePages) rfl (by rw [hpages]; decide) (by rw [hpages]; decide)
  have hkb : kb = 32 := by
    have hsame := hwritten.symm.trans hsize
    have hnumeral := (List.cons.inj hsame).1
    have hread := congrArg Text.readDecimal hnumeral
    rw [Text.readDecimal_writeDecimal, Text.readDecimal_writeDecimal] at hread
    exact (Option.some.inj hread).symm
  subst hkb
  exact ⟨hwritten, hsuits.mpr (by decide)⟩

/-- Settings whose page has no size. -/
def noPage : Settings :=
  { pageSizeKb := 0 }

/-- A request for 512 kilobytes gets 512 pages of one kilobyte each, and a buffer of no size. -/
theorem not_sizeSuits_noPage :
    let done := (setup { bufferSizeKb := 512 } {}).run (fresh smallCatalog noPage)
    done.1.1 = ⟨1⟩ ∧ done.2.installed.bufferPages = 512 ∧ ¬noPage.Capped 512 ∧
      done.2.facility.writesTo Control.bufferSize = [Text.writeDecimal 0] ∧
      done.2.facility.value? Control.bufferSize = some (Text.writeDecimal 0) ∧
      ¬noPage.SizeSuits 512 done.2.installed.bufferPages.toNat (0 : UInt64).toNat := by
  intro done
  have hruns : done.1.1 = ⟨1⟩ ∧ done.2.installed.bufferPages = 512 ∧
      done.2.facility.writesTo Control.bufferSize = [Text.writeDecimal 0] ∧
      done.2.facility.value? Control.bufferSize = some (Text.writeDecimal 0) := by
    decide +kernel
  obtain ⟨hid, hpages, hwritten, hheld⟩ := hruns
  have hcapped : ¬noPage.Capped 512 := by
    unfold Settings.Capped
    decide
  exact ⟨hid, hpages, hcapped, hwritten, hheld, fun hsuits => Nat.lt_irrefl 0 hsuits.positive⟩

end Arbiter

end TraceArbiter
