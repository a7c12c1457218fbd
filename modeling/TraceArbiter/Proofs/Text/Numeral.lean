import TraceArbiter.Text.Numeral
import Mathlib.Tactic.IntervalCases

/-!
# Numerals read back

The shortest numeral of a number is a non-empty run of digits, without a zero in front unless the
number is zero. A text is read as a word exactly if it spells the word, so that a word is read back from
its numeral.
-/

namespace TraceArbiter.Text

theorem isDigit_of_mem_repr {n : Nat} {c : Char} (h : c ∈ n.repr.toList) : c.isDigit := by
  rw [Nat.repr_eq_ofList_toDigits, String.toList_ofList] at h
  exact Nat.isDigit_of_mem_toDigits (by decide) (by decide) h

theorem repr_ne_nil (n : Nat) : n.repr.toList ≠ [] := by
  rw [Nat.repr_eq_ofList_toDigits, String.toList_ofList]
  exact Nat.toDigits_ne_nil

/-- The first character of a natural number. -/
theorem exists_digit_repr (n : Nat) : ∃ c cs, n.repr.toList = c :: cs ∧ c.isDigit := by
  cases htext : n.repr.toList with
  | nil => exact absurd htext (repr_ne_nil n)
  | cons c cs => exact ⟨c, cs, rfl, isDigit_of_mem_repr (by rw [htext]; exact .head _)⟩

theorem ofDigitChars_repr (n : Nat) : Nat.ofDigitChars 10 n.repr.toList 0 = n := by
  rw [Nat.repr_eq_ofList_toDigits, String.toList_ofList, Nat.ofDigitChars_ten_toDigits]

/-- Only zero is written with a zero in front. -/
theorem head?_repr {n : Nat} (hn : n ≠ 0) : n.repr.toList.head? ≠ some '0' := by
  rw [Nat.repr_eq_ofList_toDigits, String.toList_ofList]
  induction n using Nat.strongRecOn with
  | ind n ih =>
    obtain hlt | hle := Nat.lt_or_ge n 10
    · rw [Nat.toDigits_of_lt_base hlt, List.head?_cons]
      interval_cases n <;> first | contradiction | decide
    · have hfirst := ih (n / 10) (by omega) (by omega)
      rw [Nat.toDigits_of_base_le (by decide) hle, List.head?_append]
      rw [List.head?_eq_some_head Nat.toDigits_ne_nil] at hfirst ⊢
      exact hfirst

theorem word?_eq_some_iff {m : Nat} {n : UInt64} : word? m = some n ↔ m = n.toNat := by
  unfold word?
  split
  · next hlt =>
    rw [Option.some_inj, ← UInt64.toNat_inj, UInt64.toNat_ofNatLT]
  · next hlarge =>
    refine iff_of_false nofun ?_
    rintro rfl
    exact hlarge n.toNat_lt

theorem word?_toNat (n : UInt64) : word? n.toNat = some n :=
  word?_eq_some_iff.mpr rfl

/-! ### What a numeral spells -/

/-- The text is a run of digits, maybe behind a plus sign, and the word is their value. -/
def Spells (s : String) (n : UInt64) : Prop :=
  ∃ digits : List Char, digits ≠ [] ∧ (∀ c ∈ digits, c.isDigit) ∧
    (s.toList = digits ∨ s.toList = '+' :: digits) ∧ Nat.ofDigitChars 10 digits 0 = n.toNat

theorem decimal?_eq_some_iff {digits : List Char} {m : Nat} :
    decimal? digits = some m ↔
      digits ≠ [] ∧ (∀ c ∈ digits, c.isDigit) ∧ Nat.ofDigitChars 10 digits 0 = m := by
  unfold decimal?
  simp [List.all_eq_true, and_assoc]

theorem dropPlus_eq_self {digits : List Char} (h : ∀ c ∈ digits, c.isDigit) :
    dropPlus digits = digits := by
  unfold dropPlus
  split
  · exact absurd (h '+' (.head _)) (by decide)
  · rfl

/-- A decimal numeral is read as the word that it spells, and no other text is read. -/
theorem readDecimal_eq_some_iff {s : String} {n : UInt64} : readDecimal s = some n ↔ Spells s n := by
  unfold readDecimal Spells
  simp only [Option.bind_eq_some_iff, decimal?_eq_some_iff, word?_eq_some_iff]
  constructor
  · rintro ⟨m, ⟨hne, hdigits, hvalue⟩, rfl⟩
    refine ⟨dropPlus s.toList, hne, hdigits, ?_, hvalue⟩
    unfold dropPlus
    split
    · next hplus => exact .inr hplus
    · exact .inl rfl
  · rintro ⟨digits, hne, hdigits, hplain | hplus, hvalue⟩
    · rw [hplain, dropPlus_eq_self hdigits]
      exact ⟨_, ⟨hne, hdigits, hvalue⟩, rfl⟩
    · rw [hplus]
      exact ⟨_, ⟨hne, hdigits, hvalue⟩, rfl⟩

theorem isDigit_of_mem_writeDecimal {n : UInt64} {c : Char} (h : c ∈ (writeDecimal n).toList) :
    c.isDigit :=
  isDigit_of_mem_repr h

theorem spells_writeDecimal (n : UInt64) : Spells (writeDecimal n) n :=
  ⟨_, repr_ne_nil n.toNat, fun _ => isDigit_of_mem_writeDecimal, .inl rfl, ofDigitChars_repr n.toNat⟩

theorem readDecimal_writeDecimal (n : UInt64) : readDecimal (writeDecimal n) = some n :=
  readDecimal_eq_some_iff.mpr (spells_writeDecimal n)

end TraceArbiter.Text
