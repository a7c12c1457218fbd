import Mathlib.Algebra.Order.Floor.Div
import TraceArbiter.Settings

/-!
# Pages of a buffer

How many pages a request comes to, over numbers without a bound. Pages are counted by a page that is
never empty, and their number is limited by a limit that is never zero, whatever the settings say.
Rounding up never leaves the machine word, because only pages of more than one kilobyte leave a rest.
-/

namespace TraceArbiter.Settings

variable (s : Settings)

/-- The size in kilobytes that is asked for, the default size included. -/
def wantedKb (requestedKb : UInt64) : Nat :=
  if requestedKb = 0 then s.defaultBufferKb.toNat else requestedKb.toNat

/-- The page that pages are counted by. -/
def pageKb : Nat :=
  max s.pageSizeKb.toNat 1

def pageLimit : Nat :=
  max s.maxBufferPages.toNat 1

theorem pageKb_pos : 0 < s.pageKb :=
  Nat.lt_of_lt_of_le Nat.one_pos (Nat.le_max_right _ _)

theorem pageKb_eq_pageSizeKb (h : s.pageSizeKb ≠ 0) : s.pageKb = s.pageSizeKb.toNat := by
  have hne : s.pageSizeKb.toNat ≠ 0 := fun hzero => h (UInt64.toNat_inj.mp hzero)
  unfold pageKb
  omega

theorem mod_eq_zero_iff {kb pageKb : UInt64} :
    kb % pageKb = 0 ↔ kb.toNat % pageKb.toNat = 0 := by
  rw [← UInt64.toNat_inj, UInt64.toNat_mod, UInt64.toNat_zero]

/-- A size that leaves a rest has more kilobytes than whole pages, so there is room to count one page
more. -/
theorem wholePages_lt {kb pageKb : UInt64} (hpage : 0 < pageKb.toNat) (hrest : kb % pageKb ≠ 0) :
    kb.toNat / pageKb.toNat < kb.toNat := by
  rw [ne_eq, mod_eq_zero_iff] at hrest
  have hpositive : 0 < kb.toNat := by
    refine Nat.pos_of_ne_zero fun hzero => hrest ?_
    rw [hzero, Nat.zero_mod]
  refine Nat.div_lt_self hpositive (Nat.lt_of_le_of_ne hpage fun hone => hrest ?_)
  rw [← hone, Nat.mod_one]

/-- Rounding up is exact. -/
theorem toNat_pagesCovering {kb pageKb : UInt64} (hpage : 0 < pageKb.toNat) :
    (pagesCovering kb pageKb).toNat = kb.toNat ⌈/⌉ pageKb.toNat := by
  have hsplit : kb.toNat / pageKb.toNat * pageKb.toNat + kb.toNat % pageKb.toNat = kb.toNat :=
    Nat.div_add_mod' _ _
  have hsmall := Nat.mod_lt kb.toNat hpage
  rw [Nat.ceilDiv_eq_add_pred_div]
  unfold pagesCovering
  split
  · next hexact =>
    rw [mod_eq_zero_iff] at hexact
    rw [UInt64.toNat_div]
    exact (Nat.div_eq_of_lt_le (by omega) (by rw [Nat.succ_mul]; omega)).symm
  · next hinexact =>
    have hless := wholePages_lt hpage hinexact
    rw [mod_eq_zero_iff] at hinexact
    have hfits := kb.toNat_lt
    rw [UInt64.toNat_add, UInt64.toNat_div, UInt64.toNat_one, Nat.mod_eq_of_lt (by omega)]
    exact (Nat.div_eq_of_lt_le (by rw [Nat.succ_mul]; omega)
      (by rw [Nat.succ_mul, Nat.succ_mul]; omega)).symm

theorem toNat_bufferPages (requestedKb : UInt64) :
    (s.bufferPages requestedKb).toNat =
      max 1 (min (s.wantedKb requestedKb ⌈/⌉ s.pageKb) s.pageLimit) := by
  have hwanted : (if requestedKb = 0 then s.defaultBufferKb else requestedKb).toNat =
      s.wantedKb requestedKb := apply_ite UInt64.toNat _ _ _
  have hpage : (max s.pageSizeKb 1).toNat = s.pageKb := UInt64.toNat_max _ _
  have hlimit : (max s.maxBufferPages 1).toNat = s.pageLimit := UInt64.toNat_max _ _
  have hrounded : (pagesCovering (if requestedKb = 0 then s.defaultBufferKb else requestedKb)
      (max s.pageSizeKb 1)).toNat = _ := toNat_pagesCovering (by rw [hpage]; exact s.pageKb_pos)
  rw [hwanted, hpage] at hrounded
  unfold bufferPages
  dsimp only
  rw [UInt64.toNat_max, UInt64.toNat_min, hrounded, hlimit, UInt64.toNat_one]

/-- What is asked for takes more pages than are allowed. -/
def Capped (requestedKb : UInt64) : Prop :=
  s.pageLimit < s.wantedKb requestedKb ⌈/⌉ s.pageKb

theorem one_le_bufferPages (requestedKb : UInt64) : 1 ≤ (s.bufferPages requestedKb).toNat := by
  rw [toNat_bufferPages]
  exact Nat.le_max_left _ _

theorem bufferPages_ne_zero (requestedKb : UInt64) : s.bufferPages requestedKb ≠ 0 := by
  intro hzero
  have hpositive := s.one_le_bufferPages requestedKb
  rw [hzero, UInt64.toNat_zero] at hpositive
  exact Nat.not_succ_le_zero 0 hpositive

theorem wantedKb_le_bufferPages {requestedKb : UInt64} (hcapped : ¬s.Capped requestedKb) :
    s.wantedKb requestedKb ≤ (s.bufferPages requestedKb).toNat * s.pageKb := by
  rw [Nat.mul_comm, ← ceilDiv_le_iff_le_mul s.pageKb_pos, toNat_bufferPages,
    Nat.min_eq_left (Nat.not_lt.mp hcapped)]
  exact Nat.le_max_right _ _

end TraceArbiter.Settings
