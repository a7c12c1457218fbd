import Mathlib.Data.List.DropRight
import Mathlib.Data.List.TakeDrop
import TraceArbiter.Text.Blank

/-!
# Pieces of a text

What is left of a text when its ends are trimmed, or when it is cut at its first slash. A trimmed text
neither begins nor ends with a blank; trimming gives such a text and leaves such a text alone, and
blanks that are added at the ends make no difference to what it gives.
-/

namespace TraceArbiter

/-! ### Trimming -/

namespace Text

/-- The characters neither begin nor end with a blank. -/
def IsTrimmed (cs : List Char) : Prop :=
  (∀ c ∈ cs.head?, isBlank c = false) ∧ ∀ c ∈ cs.getLast?, isBlank c = false

instance (cs : List Char) : Decidable (IsTrimmed cs) :=
  @instDecidableAnd _ _ cs.head?.decidableForallMem cs.getLast?.decidableForallMem

theorem trimEnd_eq (cs : List Char) : trimEnd cs = cs.rdropWhile isBlank := rfl

theorem toList_trim (s : String) : (trim s).toList = trimEnd (trimStart s.toList) :=
  String.toList_ofList

theorem prefix_trimEnd (cs : List Char) : trimEnd cs <+: cs := by
  rw [trimEnd_eq]
  exact List.rdropWhile_prefix isBlank cs

theorem suffix_trimStart (cs : List Char) : trimStart cs <:+ cs :=
  List.dropWhile_suffix isBlank

theorem mem_of_mem_trim {s : String} {c : Char} (h : c ∈ (trim s).toList) : c ∈ s.toList := by
  rw [toList_trim] at h
  exact (suffix_trimStart _).mem ((prefix_trimEnd _).mem h)

theorem isTrimmed_trim (s : String) : IsTrimmed (trim s).toList := by
  rw [toList_trim]
  constructor
  · intro c hc
    have hstart : (trimStart s.toList).head? = some c := by
      obtain ⟨rest, hrest⟩ := prefix_trimEnd (trimStart s.toList)
      rw [← hrest, List.head?_append, hc, Option.some_or]
    unfold trimStart at hstart
    have hfirst := List.head?_dropWhile_not isBlank s.toList
    rw [hstart] at hfirst
    simpa using hfirst
  · intro c hc
    obtain ⟨hne, rfl⟩ := List.mem_getLast?_eq_getLast hc
    exact Bool.eq_false_iff.mpr (List.rdropWhile_last_not isBlank _ hne)

theorem trim_eq_self {s : String} (h : IsTrimmed s.toList) : trim s = s := by
  have hstart : trimStart s.toList = s.toList := by
    unfold trimStart
    cases hlist : s.toList with
    | nil => rfl
    | cons c cs =>
      rw [List.dropWhile_cons_of_neg]
      rw [h.1 c (by rw [hlist]; rfl)]
      decide
  have hend : trimEnd s.toList = s.toList := by
    rw [trimEnd_eq, List.rdropWhile_eq_self_iff]
    intro hne
    rw [h.2 _ (List.getLast?_eq_some_getLast hne)]
    decide
  unfold trim
  rw [hstart, hend, String.ofList_toList]

variable {c : Char} (hc : isBlank c)

include hc

theorem trim_cons_blank (cs : List Char) : trim (String.ofList (c :: cs)) = trim (String.ofList cs) := by
  unfold trim trimStart
  rw [String.toList_ofList, String.toList_ofList, List.dropWhile_cons_of_pos hc]

theorem trim_concat_blank (cs : List Char) :
    trim (String.ofList (cs ++ [c])) = trim (String.ofList cs) := by
  unfold trim trimStart
  rw [String.toList_ofList, String.toList_ofList, List.dropWhile_append]
  split
  · next hempty =>
    rw [List.dropWhile_cons_of_pos hc, List.dropWhile_nil, List.isEmpty_iff.mp hempty]
  · rw [trimEnd_eq, trimEnd_eq, List.rdropWhile_concat_pos isBlank _ _ hc]

end Text

/-! ### Cutting at the first slash -/

theorem notMem_of_span_slash {cs front back : List Char} (h : cs.span (· ≠ '/') = (front, back)) :
    '/' ∉ front := by
  rw [List.span_eq_takeWhile_dropWhile, Prod.mk.injEq] at h
  obtain ⟨rfl, -⟩ := h
  intro hmem
  have hall := List.all_eq_true.mp (List.all_takeWhile (p := (· ≠ '/')) (l := cs)) '/' hmem
  exact absurd hall (by decide)

theorem span_slash {front : List Char} (hfront : '/' ∉ front) (back : List Char) :
    (front ++ '/' :: back).span (· ≠ '/') = (front, '/' :: back) := by
  have hbefore : ∀ c ∈ front, decide (c ≠ '/') = true := by
    intro c hc
    rw [decide_eq_true_eq]
    rintro rfl
    exact hfront hc
  rw [List.span_eq_takeWhile_dropWhile, List.takeWhile_append_of_pos hbefore,
    List.dropWhile_append_of_pos hbefore, List.takeWhile_cons_of_neg (by decide),
    List.dropWhile_cons_of_neg (by decide), List.append_nil]

end TraceArbiter
