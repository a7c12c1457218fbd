import TraceArbiter.Clock
import TraceArbiter.Proofs.Text.Words

/-!
# Clock listings

A listing is well formed if each of its words is a name or a name in brackets. Selecting a clock takes
such a listing to another one of the same clocks, in which exactly the words for that clock are in
brackets; so the clock is the selected one afterwards, provided that it is listed.
-/

namespace TraceArbiter.Clock

open Std

/-! ### Words of a listing -/

/-- A name that a listing can hold. -/
def IsName (name : String) : Prop :=
  name ≠ "" ∧ '[' ∉ name.toList ∧ ']' ∉ name.toList

instance (name : String) : Decidable (IsName name) :=
  inferInstanceAs (Decidable (_ ∧ _ ∧ _))

def inBrackets (name : String) : String :=
  "[" ++ name ++ "]"

theorem toList_inBrackets (name : String) :
    (inBrackets name).toList = '[' :: (name.toList ++ [']']) := by
  simp [inBrackets]

theorem bracketed?_inBrackets (name : String) : bracketed? (inBrackets name) = some name := by
  simp [bracketed?, toList_inBrackets]

/-- Nothing is dropped where the character does not occur. -/
theorem dropWhile_eq_self {cs : List Char} {c : Char} (h : c ∉ cs) : cs.dropWhile (· = c) = cs := by
  cases cs with
  | nil => rfl
  | cons c' cs =>
    refine List.dropWhile_cons_of_neg ?_
    rw [decide_eq_true_eq]
    rintro rfl
    exact h (.head _)

namespace IsName

variable {name : String} (h : IsName name)

include h

theorem bracketed?_eq : bracketed? name = none := by
  unfold bracketed?
  split
  · next rest hlist => exact absurd (hlist ▸ .head _) h.2.1
  · rfl

theorem dropBrackets_eq : dropBrackets name = name := by
  have hclose : ']' ∉ name.toList.reverse := mt List.mem_reverse.mp h.2.2
  unfold dropBrackets
  rw [dropWhile_eq_self h.2.1, dropWhile_eq_self hclose, List.reverse_reverse, String.ofList_toList]

theorem dropBrackets_inBrackets : dropBrackets (inBrackets name) = name := by
  have hopen : '[' ∉ name.toList ++ [']'] := by simp [h.2.1]
  have hclose : ']' ∉ name.toList.reverse := mt List.mem_reverse.mp h.2.2
  unfold dropBrackets
  rw [toList_inBrackets, List.dropWhile_cons_of_pos (by decide), dropWhile_eq_self hopen,
    List.reverse_append, List.reverse_singleton, List.singleton_append,
    List.dropWhile_cons_of_pos (by decide), dropWhile_eq_self hclose, List.reverse_reverse,
    String.ofList_toList]

end IsName

/-- The word names a clock, in brackets or not. -/
inductive Names : String → String → Prop
  | plain {name : String} (hname : IsName name) : Names name name
  | selected {name : String} (hname : IsName name) : Names (inBrackets name) name

namespace Names

variable {word name : String} (h : Names word name)

include h

theorem isName : IsName name := by
  cases h with
  | plain hname => exact hname
  | selected hname => exact hname

theorem listed_eq : listed word = name := by
  unfold listed
  cases h with
  | plain hname =>
    rw [hname.bracketed?_eq]
    rfl
  | selected hname =>
    rw [bracketed?_inBrackets]
    rfl

theorem dropBrackets_eq : dropBrackets word = name := by
  cases h with
  | plain hname => exact hname.dropBrackets_eq
  | selected hname => exact hname.dropBrackets_inBrackets

/-- A word without blanks names a clock without blanks. -/
theorem isWord (hword : Text.IsWord word) : Text.IsWord name := by
  cases h with
  | plain => exact hword
  | selected hname =>
    refine ⟨hname.1, fun c hc => hword.2 c ?_⟩
    rw [toList_inBrackets]
    exact .tail _ (List.mem_append_left _ hc)

end Names

theorem exists_names_iff {word : String} :
    (∃ name, Names word name) ↔
      IsName (listed word) ∧ (word = listed word ∨ word = inBrackets (listed word)) := by
  constructor
  · rintro ⟨name, hname⟩
    rw [hname.listed_eq]
    refine ⟨hname.isName, ?_⟩
    cases hname with
    | plain => exact .inl rfl
    | selected => exact .inr rfl
  · rintro ⟨hname, hword⟩
    generalize listed word = name at hname hword
    obtain rfl | rfl := hword
    · exact ⟨_, .plain hname⟩
    · exact ⟨name, .selected hname⟩

theorem isWord_inBrackets {name : String} (h : Text.IsWord name) : Text.IsWord (inBrackets name) := by
  constructor
  · intro hempty
    have hlist := toList_inBrackets name
    rw [hempty] at hlist
    cases hlist
  · intro c hc
    rw [toList_inBrackets] at hc
    obtain rfl | hc := List.mem_cons.mp hc
    · decide
    obtain hc | hc := List.mem_append.mp hc
    · exact h.2 c hc
    · obtain rfl := List.mem_singleton.mp hc
      decide

/-! ### Listings -/

/-- Each word of the listing names a clock. -/
def IsListing (listing : String) : Prop :=
  ∀ word ∈ Text.words listing, ∃ name, Names word name

instance (listing : String) : Decidable (IsListing listing) :=
  decidable_of_iff
    (∀ word ∈ Text.words listing,
      IsName (listed word) ∧ (word = listed word ∨ word = inBrackets (listed word)))
    (forall₂_congr fun _ _ => exists_names_iff.symm)

theorem mem_available {name listing : String} :
    name ∈ available listing ↔ ∃ word ∈ Text.words listing, listed word = name := by
  unfold available
  rw [ExtTreeSet.mem_ofList, List.contains_eq_mem, decide_eq_true_eq, List.mem_map]

namespace IsListing

variable {listing : String} (h : IsListing listing)

include h

theorem names_listed {word : String} (hword : word ∈ Text.words listing) :
    Names word (listed word) := by
  obtain ⟨name, hname⟩ := h word hword
  rw [hname.listed_eq]
  exact hname

/-- The words after the brackets have been moved. -/
theorem words_select (clock : String) :
    Text.words (select clock listing) = (Text.words listing).map fun word =>
      if listed word = clock then inBrackets clock else listed word := by
  have hmap : ((Text.words listing).map fun word =>
      let name := dropBrackets word
      if name = clock then "[" ++ name ++ "]" else name) =
      (Text.words listing).map fun word =>
        if listed word = clock then inBrackets clock else listed word := by
    refine List.map_congr_left fun word hword => ?_
    dsimp only
    rw [(h.names_listed hword).dropBrackets_eq]
    split
    · next heq => rw [heq, inBrackets]
    · rfl
  unfold select
  rw [hmap]
  refine Text.words_intercalate fun part hpart => ?_
  obtain ⟨word, hword, rfl⟩ := List.mem_map.mp hpart
  have hname := (h.names_listed hword).isWord (Text.isWord_of_mem_words hword)
  split
  · next heq =>
    rw [← heq]
    exact isWord_inBrackets hname
  · exact hname

theorem names_select {clock word : String} (hword : word ∈ Text.words listing) :
    Names (if listed word = clock then inBrackets clock else listed word) (listed word) := by
  have hname := (h.names_listed hword).isName
  split
  · next heq =>
    rw [heq] at hname ⊢
    exact .selected hname
  · exact .plain hname

theorem select (clock : String) : IsListing (select clock listing) := by
  intro word hword
  rw [h.words_select, List.mem_map] at hword
  obtain ⟨before, hbefore, rfl⟩ := hword
  exact ⟨_, h.names_select hbefore⟩

theorem available_select (clock : String) :
    available (Clock.select clock listing) = available listing := by
  have hmap : (Text.words (Clock.select clock listing)).map listed =
      (Text.words listing).map listed := by
    rw [h.words_select, List.map_map]
    exact List.map_congr_left fun word hword => (h.names_select hword).listed_eq
  unfold available
  rw [hmap]

theorem selected?_select {clock : String} (hlisted : clock ∈ available listing) :
    selected? (Clock.select clock listing) = some clock := by
  have hbracketed {name : String} :
      name ∈ (Text.words (Clock.select clock listing)).filterMap bracketed? ↔ name = clock := by
    rw [List.mem_filterMap, h.words_select]
    constructor
    · rintro ⟨part, hpart, hname⟩
      obtain ⟨word, hword, rfl⟩ := List.mem_map.mp hpart
      split at hname
      · rw [bracketed?_inBrackets] at hname
        exact (Option.some.inj hname).symm
      · rw [(h.names_listed hword).isName.bracketed?_eq] at hname
        cases hname
    · rintro rfl
      obtain ⟨word, hword, hclock⟩ := mem_available.mp hlisted
      exact ⟨_, List.mem_map.mpr ⟨word, hword, if_pos hclock⟩, bracketed?_inBrackets name⟩
  unfold selected?
  cases hlast : ((Text.words (Clock.select clock listing)).filterMap bracketed?).getLast? with
  | none =>
    rw [List.getLast?_eq_none_iff] at hlast
    have hmem := hbracketed.mpr rfl
    rw [hlast] at hmem
    cases hmem
  | some name => rw [hbracketed.mp (List.mem_of_getLast? hlast)]

end IsListing

end TraceArbiter.Clock
