import TraceArbiter.Text.Lines

/-!
# Lines put together

A text can be put together from lines by ending each with a newline, or by a newline between any two.
Both are cut into the same lines again, provided that no line is empty, has a newline in it or ends in a
carriage return, which would be taken for a part of the line's ending.
-/

namespace TraceArbiter.Text

/-- What can be told from a line's ending, and cannot be overlooked. -/
structure IsLine (line : String) : Prop where
  ne_empty : line ≠ ""
  oneLine : '\n' ∉ line.toList
  noReturn : line.toList.getLast? ≠ some '\r'

instance (line : String) : Decidable (IsLine line) :=
  decidable_of_iff (line ≠ "" ∧ '\n' ∉ line.toList ∧ line.toList.getLast? ≠ some '\r')
    ⟨fun h => ⟨h.1, h.2.1, h.2.2⟩, fun h => ⟨h.ne_empty, h.oneLine, h.noReturn⟩⟩

/-- The lines, each with a newline behind it. -/
def ended (entries : List String) : String :=
  String.join (entries.map (· ++ "\n"))

/-- The lines with a newline between any two. -/
def separated (entries : List String) : String :=
  "\n".intercalate entries

variable {line : String} {entries : List String}

/-- A newline ends the line in front of it. -/
theorem lines_append_newline (hline : '\n' ∉ line.toList) (text : String) :
    lines (line ++ "\n" ++ text) = String.ofList (dropReturn line.toList) :: lines text := by
  have hpieces : (line ++ "\n" ++ text).toList.splitOn '\n' =
      line.toList :: text.toList.splitOn '\n' := by
    rw [String.toList_append, String.toList_append, List.append_assoc]
    exact (List.splitOn_append_cons_self _ _).trans (by rw [List.splitOn_eq_singleton hline]; rfl)
  obtain ⟨piece, pieces, htext⟩ := List.exists_cons_of_ne_nil (List.splitOn_ne_nil '\n' text.toList)
  unfold lines
  rw [hpieces, htext]
  rfl

theorem IsLine.lines_append_newline (h : IsLine line) (text : String) :
    lines (line ++ "\n" ++ text) = line :: lines text := by
  rw [Text.lines_append_newline h.oneLine, dropReturn, if_neg h.noReturn, String.ofList_toList]

theorem IsLine.lines_eq (h : IsLine line) : lines line = [line] := by
  have hne : line.toList ≠ [] := mt String.toList_eq_nil_iff.mp h.ne_empty
  unfold lines
  rw [List.splitOn_eq_singleton h.oneLine]
  simp [hne]

theorem ended_concat (entries : List String) (line : String) :
    ended (entries ++ [line]) = ended entries ++ (line ++ "\n") := by
  simp [ended]

theorem lines_ended (h : ∀ line ∈ entries, IsLine line) : lines (ended entries) = entries := by
  induction entries with
  | nil => rfl
  | cons line entries ih =>
    obtain ⟨hline, hentries⟩ := List.forall_mem_cons.mp h
    have hcons : ended (line :: entries) = line ++ "\n" ++ ended entries := by
      rw [ended, List.map_cons, String.join_cons]
      rfl
    rw [hcons, hline.lines_append_newline, ih hentries]

theorem lines_separated (h : ∀ line ∈ entries, IsLine line) : lines (separated entries) = entries := by
  induction entries with
  | nil => rfl
  | cons line entries ih =>
    obtain ⟨hline, hentries⟩ := List.forall_mem_cons.mp h
    cases entries with
    | nil => exact (congrArg lines String.intercalate_singleton).trans hline.lines_eq
    | cons next rest =>
      have hcons : separated (line :: next :: rest) = line ++ "\n" ++ separated (next :: rest) :=
        String.intercalate_cons_cons
      rw [hcons, hline.lines_append_newline, ih hentries]

end TraceArbiter.Text
