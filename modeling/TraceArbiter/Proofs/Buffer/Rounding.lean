import TraceArbiter.Proofs.Buffer.Pages

/-!
# Rounding up to pages

A request is given the least number of pages, of one page or more, that holds what it asks for, unless
the limit is lower. Main statement: the pages are worked out without a division by zero and without
leaving the machine word, they are that least number, cut off at the limit, and they never become
fewer for a larger request, for a higher limit or for a smaller page.
-/

namespace TraceArbiter.Settings

/-! ### Steps that can fail

A division has no result if the divisor is zero, a sum if it leaves the machine word, and bringing a
number between two bounds if the bounds have crossed. The pages are worked out once more by such steps.
-/

def divMod? (n d : UInt64) : Option (UInt64 × UInt64) :=
  if d = 0 then none else some (n / d, n % d)

def add? (m n : UInt64) : Option UInt64 :=
  if m.toNat + n.toNat < UInt64.size then some (m + n) else none

def clamp? (low high n : UInt64) : Option UInt64 :=
  if low ≤ high then some (max low (min n high)) else none

def pagesCovering? (kb pageKb : UInt64) : Option UInt64 := do
  let (whole, rest) ← divMod? kb pageKb
  if rest = 0 then some whole else add? whole 1

/-- The pages for a request, if every step has a result. -/
def bufferPages? (s : Settings) (requestedKb : UInt64) : Option UInt64 := do
  let kb := if requestedKb = 0 then s.defaultBufferKb else requestedKb
  let pages ← pagesCovering? kb (max s.pageSizeKb 1)
  clamp? 1 (max s.maxBufferPages 1) pages

theorem pagesCovering?_eq {kb pageKb : UInt64} (hpage : 0 < pageKb.toNat) :
    pagesCovering? kb pageKb = some (pagesCovering kb pageKb) := by
  have hdivisor : pageKb ≠ 0 := by
    rintro rfl
    exact Nat.lt_irrefl 0 hpage
  have hsteps : pagesCovering? kb pageKb =
      if kb % pageKb = 0 then some (kb / pageKb) else add? (kb / pageKb) 1 := by
    unfold pagesCovering? divMod?
    rw [if_neg hdivisor]
    rfl
  rw [hsteps]
  unfold pagesCovering add?
  split
  · rfl
  · next hrest =>
    have hless := wholePages_lt hpage hrest
    have hfits := kb.toNat_lt_size
    rw [UInt64.toNat_div, UInt64.toNat_one, if_pos (by omega)]

variable (s : Settings)

/-- Neither a page of no size nor a limit of no pages makes a step fail. -/
theorem bufferPages?_eq (requestedKb : UInt64) :
    s.bufferPages? requestedKb = some (s.bufferPages requestedKb) := by
  have hpage : 0 < (max s.pageSizeKb 1).toNat := by
    rw [UInt64.toNat_max]
    exact s.pageKb_pos
  have hbounds : (1 : UInt64) ≤ max s.maxBufferPages 1 := by
    rw [UInt64.le_iff_toNat_le, UInt64.toNat_max]
    exact Nat.le_max_right _ _
  unfold bufferPages? bufferPages clamp?
  dsimp only
  rw [pagesCovering?_eq hpage, Option.bind_eq_bind, Option.bind_some, if_pos hbounds]

/-! ### The least number of pages -/

/-- The numbers of pages, of one page at the least, that hold what is asked for. -/
def holdingPages (requestedKb : UInt64) : Set Nat :=
  {pages | 1 ≤ pages ∧ s.wantedKb requestedKb ≤ pages * s.pageKb}

theorem isLeast_holdingPages (requestedKb : UInt64) :
    IsLeast (s.holdingPages requestedKb) (max 1 (s.wantedKb requestedKb ⌈/⌉ s.pageKb)) := by
  constructor
  · refine ⟨Nat.le_max_left _ _, ?_⟩
    rw [Nat.mul_comm, ← ceilDiv_le_iff_le_mul s.pageKb_pos]
    exact Nat.le_max_right _ _
  · rintro pages ⟨hpositive, hholds⟩
    rw [Nat.mul_comm, ← ceilDiv_le_iff_le_mul s.pageKb_pos] at hholds
    exact Nat.max_le.mpr ⟨hpositive, hholds⟩

theorem one_le_pageLimit : 1 ≤ s.pageLimit :=
  Nat.le_max_right _ _

theorem toNat_bufferPages_of_isLeast {requestedKb : UInt64} {least : Nat}
    (hleast : IsLeast (s.holdingPages requestedKb) least) :
    (s.bufferPages requestedKb).toNat = min least s.pageLimit := by
  rw [toNat_bufferPages, hleast.unique (s.isLeast_holdingPages requestedKb),
    Nat.max_min_distrib_left, Nat.max_eq_right s.one_le_pageLimit]

/-- What rounding comes to: no step fails, and there are as many pages as the least number that holds
what is asked for, or as many as are allowed if that is fewer. -/
structure Rounds (requestedKb pages : UInt64) : Prop where
  computed : s.bufferPages? requestedKb = some pages
  positive : 1 ≤ pages.toNat
  limited : pages.toNat ≤ s.pageLimit
  rounded : ∃ least, IsLeast (s.holdingPages requestedKb) least ∧
    pages.toNat = if least ≤ s.pageLimit then least else s.pageLimit

theorem rounds_bufferPages (requestedKb : UInt64) :
    s.Rounds requestedKb (s.bufferPages requestedKb) := by
  have hleast := s.isLeast_holdingPages requestedKb
  have hpages := s.toNat_bufferPages_of_isLeast hleast
  constructor
  · exact s.bufferPages?_eq requestedKb
  · exact s.one_le_bufferPages requestedKb
  · rw [hpages]
    exact Nat.min_le_right _ _
  · exact ⟨_, hleast, hpages.trans Nat.min_def⟩

/-! ### Comparison -/

variable {s} {s' : Settings} {requestedKb requestedKb' : UInt64}

theorem bufferPages_le_bufferPages (hwanted : s.wantedKb requestedKb ≤ s'.wantedKb requestedKb')
    (hpage : s'.pageKb ≤ s.pageKb) (hlimit : s.pageLimit ≤ s'.pageLimit) :
    s.bufferPages requestedKb ≤ s'.bufferPages requestedKb' := by
  have hrounded : s.wantedKb requestedKb ⌈/⌉ s.pageKb ≤
      s'.wantedKb requestedKb' ⌈/⌉ s'.pageKb := by
    rw [ceilDiv_le_iff_le_mul s.pageKb_pos]
    calc
      s.wantedKb requestedKb ≤ s'.wantedKb requestedKb' := hwanted
      _ ≤ s'.pageKb * (s'.wantedKb requestedKb' ⌈/⌉ s'.pageKb) := le_smul_ceilDiv s'.pageKb_pos
      _ ≤ s.pageKb * (s'.wantedKb requestedKb' ⌈/⌉ s'.pageKb) := Nat.mul_le_mul_right _ hpage
  rw [UInt64.le_iff_toNat_le, toNat_bufferPages, toNat_bufferPages]
  omega

theorem wantedKb_mono (s : Settings) (hne : requestedKb ≠ 0) (hle : requestedKb ≤ requestedKb') :
    s.wantedKb requestedKb ≤ s.wantedKb requestedKb' := by
  have hne' : requestedKb' ≠ 0 := by
    rintro rfl
    exact hne (UInt64.le_zero_iff.mp hle)
  unfold wantedKb
  rw [if_neg hne, if_neg hne']
  exact UInt64.le_iff_toNat_le.mp hle

/-- The pages for a request are worked out without a failing step and are the least number that holds
what is asked for, cut off at the limit. A larger request that is not for the default size, a higher
limit and a smaller page never make them fewer; a page of no size is here one of one kilobyte. -/
theorem bufferPages_rounds (s : Settings) :
    (∀ requestedKb, s.Rounds requestedKb (s.bufferPages requestedKb)) ∧
      (∀ requestedKb requestedKb', requestedKb ≠ 0 → requestedKb ≤ requestedKb' →
        s.bufferPages requestedKb ≤ s.bufferPages requestedKb') ∧
      (∀ requestedKb limit limit', limit ≤ limit' →
        { s with maxBufferPages := limit }.bufferPages requestedKb ≤
          { s with maxBufferPages := limit' }.bufferPages requestedKb) ∧
      ∀ requestedKb page page', page ≤ page' →
        { s with pageSizeKb := page' }.bufferPages requestedKb ≤
          { s with pageSizeKb := page }.bufferPages requestedKb := by
  refine ⟨s.rounds_bufferPages, ?_, ?_, ?_⟩
  · intro requestedKb requestedKb' hne hle
    exact bufferPages_le_bufferPages (s.wantedKb_mono hne hle) (Nat.le_refl _) (Nat.le_refl _)
  · intro requestedKb limit limit' hle
    have hlimits := max_le_max_right 1 (UInt64.le_iff_toNat_le.mp hle)
    exact bufferPages_le_bufferPages (Nat.le_refl _) (Nat.le_refl _) hlimits
  · intro requestedKb page page' hle
    have hpages := max_le_max_right 1 (UInt64.le_iff_toNat_le.mp hle)
    exact bufferPages_le_bufferPages (Nat.le_refl _) hpages (Nat.le_refl _)

def smallPages : Settings :=
  { pageSizeKb := 2, maxBufferPages := UInt64.ofNat (UInt64.size - 1) }

/-- The largest request leaves a rest, though nothing can be added to it before it is divided. The
pages that it comes to are compared with those for the least request, under a limit, and of a larger
size. -/
theorem bufferPages_rounds_largestRequest :
    let largest := UInt64.ofNat (UInt64.size - 1)
    smallPages.Rounds largest (UInt64.ofNat (2 ^ 63)) ∧
      ((1 : UInt64) ≠ 0 ∧ 1 ≤ largest ∧
        smallPages.bufferPages 1 ≤ smallPages.bufferPages largest) ∧
      (8192 ≤ largest ∧
        { smallPages with maxBufferPages := 8192 }.bufferPages largest ≤
          { smallPages with maxBufferPages := largest }.bufferPages largest) ∧
      (2 : UInt64) ≤ 3 ∧
        { smallPages with pageSizeKb := 3 }.bufferPages largest ≤
          { smallPages with pageSizeKb := 2 }.bufferPages largest := by
  intro largest
  obtain ⟨hrounds, hrequests, hlimits, hpages⟩ := bufferPages_rounds smallPages
  have hcount : smallPages.bufferPages largest = UInt64.ofNat (2 ^ 63) := by decide
  have hnonzero : (1 : UInt64) ≠ 0 := by decide
  have hrequest : 1 ≤ largest := by decide
  have hlimit : 8192 ≤ largest := by decide
  have hpage : (2 : UInt64) ≤ 3 := by decide
  exact ⟨hcount ▸ hrounds largest, ⟨hnonzero, hrequest, hrequests 1 largest hnonzero hrequest⟩,
    ⟨hlimit, hlimits largest 8192 largest hlimit⟩, hpage, hpages largest 2 3 hpage⟩

end TraceArbiter.Settings
