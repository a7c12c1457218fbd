import Mathlib.Data.List.Nodup
import Mathlib.Data.List.Perm.Subperm
import TraceArbiter.Arbiter.Basic

/-!
# Lists of names

The names whose annotations are recorded stand in the order in which they were first asked for, each
once. A merge adds at the end and merging from nothing leaves no repetitions, so comparing lengths
tells whether a merge adds a name and whether a restriction drops one.
-/

namespace TraceArbiter.Arbiter

variable {names added : List String} {name : String}

/-! ### Merging -/

theorem mergeNames_cons (names : List String) (name : String) (added : List String) :
    mergeNames names (name :: added) =
      mergeNames (if name ∈ names then names else names ++ [name]) added := rfl

@[simp]
theorem mem_mergeNames : name ∈ mergeNames names added ↔ name ∈ names ∨ name ∈ added := by
  induction added generalizing names with
  | nil => simp [mergeNames]
  | cons first added ih =>
    rw [mergeNames_cons, ih]
    split
    · next hold =>
      rw [List.mem_cons, ← or_assoc]
      refine or_congr_left (or_iff_left_of_imp ?_).symm
      rintro rfl
      exact hold
    · rw [List.mem_append, List.mem_singleton, List.mem_cons, or_assoc]

theorem nodup_mergeNames (hnames : names.Nodup) (added : List String) :
    (mergeNames names added).Nodup := by
  induction added generalizing names with
  | nil => exact hnames
  | cons first added ih =>
    rw [mergeNames_cons]
    split
    · exact ih hnames
    · next hnew =>
      rw [← List.concat_eq_append]
      exact ih (hnames.concat hnew)

theorem prefix_mergeNames (names added : List String) : names <+: mergeNames names added := by
  induction added generalizing names with
  | nil => exact List.prefix_rfl
  | cons first added ih =>
    rw [mergeNames_cons]
    split
    · exact ih names
    · exact (List.prefix_append names [first]).trans (ih _)

theorem subset_mergeNames_left (names added : List String) : names ⊆ mergeNames names added :=
  (prefix_mergeNames names added).subset

theorem subset_mergeNames_right (names added : List String) : added ⊆ mergeNames names added :=
  fun _ hname => mem_mergeNames.mpr (.inr hname)

theorem mergeNames_subset {wanted : List String} (hnames : names ⊆ wanted) (hadded : added ⊆ wanted) :
    mergeNames names added ⊆ wanted :=
  fun _ hname => (mem_mergeNames.mp hname).elim (hnames ·) (hadded ·)

theorem mergeNames_eq_of_length (h : (mergeNames names added).length = names.length) :
    mergeNames names added = names :=
  ((prefix_mergeNames names added).eq_of_length h.symm).symm

theorem mergeNames_of_subset (h : added ⊆ names) : mergeNames names added = names := by
  induction added with
  | nil => rfl
  | cons name added ih =>
    obtain ⟨hname, hrest⟩ := List.cons_subset.mp h
    rw [mergeNames_cons, if_pos hname, ih hrest]

theorem length_mergeNames_eq_iff : (mergeNames names added).length = names.length ↔ added ⊆ names := by
  constructor
  · intro hlength name hname
    rw [← mergeNames_eq_of_length hlength]
    exact mem_mergeNames.mpr (.inr hname)
  · intro hsub
    rw [mergeNames_of_subset hsub]

theorem mergeNames_eq_nil : mergeNames names added = [] ↔ names = [] ∧ added = [] := by
  simp only [List.eq_nil_iff_forall_not_mem, mem_mergeNames, not_or, forall_and]

/-! ### What sessions ask for -/

theorem mem_unionOfNames {f : SessionConfig → List String} (configs : List SessionConfig) :
    name ∈ configs.foldl (fun names c => mergeNames names (f c)) names ↔
      name ∈ names ∨ ∃ c ∈ configs, name ∈ f c := by
  induction configs generalizing names with
  | nil => simp
  | cons c configs ih =>
    rw [List.foldl_cons, ih, mem_mergeNames, or_assoc]
    simp

theorem nodup_unionOfNames (f : SessionConfig → List String) (configs : List SessionConfig)
    (hnames : names.Nodup) :
    (configs.foldl (fun names c => mergeNames names (f c)) names).Nodup := by
  induction configs generalizing names with
  | nil => exact hnames
  | cons c configs ih => exact ih (nodup_mergeNames hnames (f c))

theorem mem_unionOfApps (configs : List SessionConfig) :
    name ∈ unionOfApps configs ↔ ∃ c ∈ configs, name ∈ c.apps :=
  (mem_unionOfNames configs).trans (or_iff_right List.not_mem_nil)

theorem mem_unionOfCategories (configs : List SessionConfig) :
    name ∈ unionOfCategories configs ↔ ∃ c ∈ configs, name ∈ c.categories :=
  (mem_unionOfNames configs).trans (or_iff_right List.not_mem_nil)

theorem subset_unionOfApps {configs : List SessionConfig} {c : SessionConfig} (hc : c ∈ configs) :
    c.apps ⊆ unionOfApps configs :=
  fun _ happ => (mem_unionOfApps configs).mpr ⟨c, hc, happ⟩

theorem subset_unionOfCategories {configs : List SessionConfig} {c : SessionConfig}
    (hc : c ∈ configs) : c.categories ⊆ unionOfCategories configs :=
  fun _ hcategory => (mem_unionOfCategories configs).mpr ⟨c, hc, hcategory⟩

theorem unionOfApps_mono {configs configs' : List SessionConfig} (h : configs ⊆ configs') :
    unionOfApps configs ⊆ unionOfApps configs' := by
  intro app happ
  obtain ⟨c, hc, hasks⟩ := (mem_unionOfApps configs).mp happ
  exact subset_unionOfApps (h hc) hasks

theorem unionOfCategories_mono {configs configs' : List SessionConfig} (h : configs ⊆ configs') :
    unionOfCategories configs ⊆ unionOfCategories configs' := by
  intro category hcategory
  obtain ⟨c, hc, hasks⟩ := (mem_unionOfCategories configs).mp hcategory
  exact subset_unionOfCategories (h hc) hasks

theorem nodup_unionOfApps (configs : List SessionConfig) : (unionOfApps configs).Nodup :=
  nodup_unionOfNames _ configs List.nodup_nil

theorem nodup_unionOfCategories (configs : List SessionConfig) :
    (unionOfCategories configs).Nodup :=
  nodup_unionOfNames _ configs List.nodup_nil

/-! ### Restricting -/

theorem mem_filter_mem : name ∈ added.filter (· ∈ names) ↔ name ∈ names ∧ name ∈ added := by
  rw [List.mem_filter, decide_eq_true_eq, and_comm]

theorem subset_filter_mem {wanted : List String} (hwanted : names ⊆ wanted) (hadded : names ⊆ added) :
    names ⊆ wanted.filter (· ∈ added) :=
  fun _ hname => List.mem_filter.mpr ⟨hwanted hname, decide_eq_true (hadded hname)⟩

theorem subset_of_length_filter (hadded : added.Nodup)
    (h : (added.filter (· ∈ names)).length = names.length) : names ⊆ added := by
  have hsub : added.filter (· ∈ names) ⊆ names := fun name hname =>
    of_decide_eq_true (List.mem_filter.mp hname).2
  -- A part of a list that is as long as the list has all of it.
  have hperm := (List.Nodup.subperm (hadded.filter _) hsub).perm_of_length_le (Nat.le_of_eq h.symm)
  exact fun name hname => (List.mem_filter.mp (hperm.mem_iff.mpr hname)).1

theorem length_filter_eq_iff (hnames : names.Nodup) (hadded : added.Nodup) :
    (added.filter (· ∈ names)).length = names.length ↔ names ⊆ added := by
  refine ⟨subset_of_length_filter hadded, fun hsub => Nat.le_antisymm ?_ ?_⟩
  · have hpart : added.filter (· ∈ names) ⊆ names := fun name hname =>
      of_decide_eq_true (List.mem_filter.mp hname).2
    exact ((hadded.filter _).subperm hpart).length_le
  · exact (hnames.subperm (subset_filter_mem hsub (List.Subset.refl _))).length_le

end TraceArbiter.Arbiter
