import TraceArbiter.Arbiter.Basic

/-!
# The union of syscall filters

What a filter admits, the laws of the union, and the order in which a union lies above its parts. They
make the union of all sessions independent of the order in which the sessions are gone through; one
more session adds just its own filter, and every session's filter lies below the union.
-/

namespace TraceArbiter

open Std

namespace SyscallFilter

variable {f g : SyscallFilter} {ids : ExtTreeSet SyscallId} {call : SyscallId}

def admits : SyscallFilter → SyscallId → Bool
  | none, _ => false
  | explicit ids, call => ids.contains call
  | all, _ => true

theorem admits_union (f g : SyscallFilter) (call : SyscallId) :
    (f.union g).admits call = (f.admits call || g.admits call) := by
  cases f <;> cases g <;> simp [union, admits]

theorem admits_of_restriction (h : f.restriction = some ids) : f.admits call ↔ call ∈ ids := by
  unfold restriction at h
  split at h
  · split at h
    · cases h
    · cases h
      exact ExtTreeSet.mem_iff_contains.symm
  · cases h

/-! ### Laws of the union -/

@[simp]
theorem union_none (f : SyscallFilter) : f.union .none = f := by
  cases f <;> rfl

theorem union_comm (f g : SyscallFilter) : f.union g = g.union f := by
  cases f <;> cases g <;> try rfl
  next a b =>
    have h : a ∪ b = b ∪ a := by
      ext call
      rw [ExtTreeSet.mem_union_iff, ExtTreeSet.mem_union_iff, or_comm]
    exact congrArg explicit h

theorem union_assoc (f g h : SyscallFilter) : (f.union g).union h = f.union (g.union h) := by
  cases f <;> cases g <;> cases h <;> try rfl
  next a b c =>
    have h : a ∪ b ∪ c = a ∪ (b ∪ c) := by
      ext call
      simp only [ExtTreeSet.mem_union_iff, or_assoc]
    exact congrArg explicit h

theorem union_right_comm (f g h : SyscallFilter) : (f.union g).union h = (f.union h).union g := by
  rw [union_assoc, union_comm g, ← union_assoc]

/-! ### The order of filters -/

inductive Le : SyscallFilter → SyscallFilter → Prop
  | none (g : SyscallFilter) : Le .none g
  | explicit {ids ids' : ExtTreeSet SyscallId} (h : ∀ call ∈ ids, call ∈ ids') :
      Le (.explicit ids) (.explicit ids')
  | all (f : SyscallFilter) : Le f .all

instance : LE SyscallFilter :=
  ⟨Le⟩

/-- One filter is below another if the other is their union. -/
theorem le_iff_union_eq {f g : SyscallFilter} : f ≤ g ↔ f.union g = g := by
  constructor
  · rintro (_ | @⟨a, b, h⟩ | _)
    · cases g <;> rfl
    · have hunion : a ∪ b = b := by
        ext call
        rw [ExtTreeSet.mem_union_iff]
        exact or_iff_right_of_imp (h call)
      exact congrArg explicit hunion
    · cases f <;> rfl
  · intro h
    cases f with
    | none => exact .none g
    | all =>
      rw [← h]
      exact .all _
    | explicit a =>
      cases g with
      | none => cases h
      | all => exact .all _
      | explicit b =>
        have hunion : a ∪ b = b := explicit.inj h
        refine .explicit fun call hcall => ?_
        rw [← hunion, ExtTreeSet.mem_union_iff]
        exact .inl hcall

theorem le_trans {f g h : SyscallFilter} (hfg : f ≤ g) (hgh : g ≤ h) : f ≤ h := by
  rw [le_iff_union_eq] at hfg hgh ⊢
  rw [← hgh, ← union_assoc, hfg]

theorem le_refl (f : SyscallFilter) : f ≤ f := by
  cases f with
  | none => exact .none _
  | explicit ids => exact .explicit fun _ hcall => hcall
  | all => exact .all _

theorem le_union_right (f g : SyscallFilter) : g ≤ f.union g := by
  rw [le_iff_union_eq, union_comm, union_assoc, le_iff_union_eq.mp (le_refl g)]

theorem le_union_left (f g : SyscallFilter) : f ≤ f.union g := by
  rw [union_comm]
  exact le_union_right g f

end SyscallFilter

namespace Arbiter

/-! ### The union of all sessions -/

theorem unionOfSyscalls_cons (c : SessionConfig) (configs : List SessionConfig) :
    unionOfSyscalls (c :: configs) = (unionOfSyscalls configs).union c.syscallFilter := by
  have hfold : ∀ f : SyscallFilter,
      configs.foldl (fun f c => f.union c.syscallFilter) (f.union c.syscallFilter) =
        (configs.foldl (fun f c => f.union c.syscallFilter) f).union c.syscallFilter := by
    induction configs with
    | nil => exact fun _ => rfl
    | cons c' configs ih =>
      intro f
      rw [List.foldl_cons, List.foldl_cons, SyscallFilter.union_right_comm, ih]
  exact hfold .none

theorem unionOfSyscalls_perm {configs configs' : List SessionConfig} (h : configs.Perm configs') :
    unionOfSyscalls configs = unionOfSyscalls configs' :=
  h.foldl_eq' (fun _ _ _ _ _ => SyscallFilter.union_right_comm ..) _

theorem admits_unionOfSyscalls (configs : List SessionConfig) (call : SyscallId) :
    (unionOfSyscalls configs).admits call ↔ ∃ c ∈ configs, c.syscallFilter.admits call := by
  induction configs with
  | nil => simp [unionOfSyscalls, SyscallFilter.admits]
  | cons c configs ih =>
    rw [unionOfSyscalls_cons, SyscallFilter.admits_union, Bool.or_eq_true, ih]
    simp only [List.mem_cons, exists_eq_or_imp, or_comm]

theorem le_unionOfSyscalls {configs : List SessionConfig} {c : SessionConfig} (hc : c ∈ configs) :
    c.syscallFilter ≤ unionOfSyscalls configs := by
  induction configs with
  | nil => cases hc
  | cons c' configs ih =>
    rw [unionOfSyscalls_cons]
    cases hc with
    | head => exact SyscallFilter.le_union_right ..
    | tail _ hc => exact SyscallFilter.le_trans (ih hc) (SyscallFilter.le_union_left ..)

end Arbiter

end TraceArbiter
