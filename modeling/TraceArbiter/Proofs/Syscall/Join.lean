import Mathlib.Data.List.Dedup
import Mathlib.Order.Bounds.Basic
import TraceArbiter.Proofs.Syscall.Union

/-!
# The union as a join

The order of syscall filters is a partial order from the filter that wants no call to the one that
wants all of them, and the union of two filters is the least filter above both. The union of any number
of sessions is then the least filter above those of the sessions, and since there is only one such
filter, it depends on which filters the sessions have: neither on the order in which the sessions are
gone through nor on how many of them have the same filter.
-/

namespace TraceArbiter

open Std

namespace SyscallFilter

instance : PartialOrder SyscallFilter where
  le_refl := le_refl
  le_trans _ _ _ := le_trans
  le_antisymm f g hfg hgf := by
    rw [← le_iff_union_eq.mp hgf, union_comm, le_iff_union_eq.mp hfg]

instance : SemilatticeSup SyscallFilter where
  sup := union
  le_sup_left := le_union_left
  le_sup_right := le_union_right
  sup_le f g h hf hg := by
    rw [le_iff_union_eq] at hf hg ⊢
    rw [union_assoc, hg, hf]

instance : BoundedOrder SyscallFilter where
  bot := .none
  bot_le := .none
  top := .all
  le_top := .all

end SyscallFilter

open Arbiter

/-- The union of all sessions is the least filter above those of the sessions. -/
theorem Arbiter.isLUB_unionOfSyscalls (configs : List SessionConfig) :
    IsLUB {f | ∃ c ∈ configs, c.syscallFilter = f} (unionOfSyscalls configs) := by
  induction configs with
  | nil =>
    have hempty : {f | ∃ c ∈ ([] : List SessionConfig), c.syscallFilter = f} = ∅ := by
      ext f
      simp
    rw [hempty]
    exact isLUB_empty
  | cons c configs ih =>
    have hinsert : {f | ∃ c' ∈ c :: configs, c'.syscallFilter = f} =
        insert c.syscallFilter {f | ∃ c' ∈ configs, c'.syscallFilter = f} := by
      ext f
      simp [eq_comm]
    rw [hinsert, unionOfSyscalls_cons, SyscallFilter.union_comm]
    exact ih.insert c.syscallFilter

namespace SyscallFilter

/-- The union of two filters is the least filter above both and admits what either admits; and the
union of all sessions depends only on which filters they have. -/
theorem union_joins (f g h : SyscallFilter) (call : SyscallId) (configs configs' : List SessionConfig) :
    IsLUB {f, g} (f.union g) ∧
      ((f.union g).admits call ↔ f.admits call ∨ g.admits call) ∧
      f.union g = g.union f ∧ (f.union g).union h = f.union (g.union h) ∧ f.union f = f ∧
      SyscallFilter.none.union f = f ∧ f.union .none = f ∧ all.union f = all ∧ f.union all = all ∧
      ((∀ filter, (∃ c ∈ configs, c.syscallFilter = filter) ↔
          ∃ c ∈ configs', c.syscallFilter = filter) →
        unionOfSyscalls configs = unionOfSyscalls configs') := by
  refine ⟨isLUB_pair, ?_, union_comm f g, union_assoc f g h, sup_idem f, bot_sup_eq f, union_none f,
    top_sup_eq f, sup_top_eq f, fun hsame => ?_⟩
  · rw [admits_union, Bool.or_eq_true]
  · have hleast := isLUB_unionOfSyscalls configs'
    rw [← Set.ext hsame] at hleast
    exact (isLUB_unionOfSyscalls configs).unique hleast

def recording (filter : SyscallFilter) : SessionConfig where
  eventFilter := {}
  syscallFilter := filter
  compactSched := {}
  apps := []
  categories := []
  symbolizeKernel := false
  functionGraph := false

def repeatedFilters : List SyscallFilter :=
  [explicit ∅, explicit (.ofList [(3 : SyscallId)]), .none, explicit (.ofList [(3 : SyscallId)])]

/-- An empty list of calls lies above no list, and is one more filter to go through. -/
theorem union_joins_repeatedFilters :
    IsLUB {explicit ∅, SyscallFilter.none} (explicit ∅) ∧
      unionOfSyscalls (repeatedFilters.map recording) =
        unionOfSyscalls (repeatedFilters.dedup.reverse.map recording) := by
  obtain ⟨hleast, -, -, -, -, -, -, -, -, hsame⟩ := union_joins (explicit ∅) .none all 3
    (repeatedFilters.map recording) (repeatedFilters.dedup.reverse.map recording)
  refine ⟨hleast, hsame fun filter => ?_⟩
  simp [recording]

end SyscallFilter

end TraceArbiter
