import TraceArbiter.Text.Blank

/-!
# Words

A word is not empty and has no blank in it. Cutting a text into words gives words only, and a text
that is put together from words with blanks between them is cut into the same words again.
-/

namespace TraceArbiter.Text

def IsWord (word : String) : Prop :=
  word ≠ "" ∧ ∀ c ∈ word.toList, isBlank c = false

theorem words_eq (s : String) :
    words s = ((s.toList.splitOnP isBlank).filter (!·.isEmpty)).map String.ofList := rfl

/-- The pieces of a text have no character in them at which it is cut. -/
theorem eq_false_of_mem_splitOnP {p : Char → Bool} {cs part : List Char} (h : part ∈ cs.splitOnP p) :
    ∀ c ∈ part, p c = false := by
  induction cs generalizing part with
  | nil =>
    rw [List.splitOnP_nil, List.mem_singleton] at h
    subst h
    exact nofun
  | cons c cs ih =>
    obtain ⟨first, rest, hsplit⟩ := List.exists_cons_of_ne_nil (List.splitOnP_ne_nil p cs)
    rw [hsplit] at ih
    rw [List.splitOnP_cons_eq_if_modifyHead, hsplit] at h
    split at h
    · obtain rfl | hpart := List.mem_cons.mp h
      · exact nofun
      · exact ih hpart
    · next hletter =>
      rw [List.modifyHead_cons] at h
      obtain rfl | hpart := List.mem_cons.mp h
      · intro c' hc'
        obtain rfl | hfirst := List.mem_cons.mp hc'
        · simpa using hletter
        · exact ih (.head _) c' hfirst
      · exact ih (.tail _ hpart)

theorem isWord_of_mem_words {s word : String} (h : word ∈ words s) : IsWord word := by
  obtain ⟨cs, hcs, rfl⟩ := List.mem_map.mp h
  obtain ⟨hpart, hne⟩ := List.mem_filter.mp hcs
  rw [IsWord, String.toList_ofList, ne_eq, String.ofList_eq_empty_iff]
  exact ⟨by simpa using hne, eq_false_of_mem_splitOnP hpart⟩

theorem words_of_isWord {word : String} (h : IsWord word) : words word = [word] := by
  have hne : word.toList ≠ [] := mt String.toList_eq_nil_iff.mp h.1
  rw [words_eq, List.splitOnP_eq_singleton h.2]
  simp [hne]

/-- A blank ends the words in front of it. -/
theorem words_append_blank (front back : String) :
    words (front ++ " " ++ back) = words front ++ words back := by
  have hsplit : (front ++ " " ++ back).toList.splitOnP isBlank =
      front.toList.splitOnP isBlank ++ back.toList.splitOnP isBlank := by
    rw [String.toList_append, String.toList_append, List.append_assoc]
    exact List.splitOnP_append_cons _ _ (by decide)
  rw [words_eq, hsplit, List.filter_append, List.map_append]
  rfl

theorem words_intercalate {parts : List String} (h : ∀ word ∈ parts, IsWord word) :
    words (" ".intercalate parts) = parts := by
  induction parts with
  | nil => rfl
  | cons word parts ih =>
    have hword := words_of_isWord (h word (.head _))
    cases parts with
    | nil => rw [String.intercalate_singleton, hword]
    | cons next rest =>
      rw [String.intercalate_cons_cons, words_append_blank, hword, List.singleton_append,
        ih fun word hmem => h word (.tail _ hmem)]

end TraceArbiter.Text
