import TraceArbiter.Proofs.Category.Vendor
import TraceArbiter.Proofs.Text.Pieces

/-!
# What a listing says

Of the lines of a listing, those that are blank or a comment say nothing, and the rest are statements:
the categories of a listing depend on its statements only. Trimming takes care of a carriage return at
the end of a line, so it does not matter whether one belongs to the line ending, and the statements can
be read off the pieces between the newlines. Texts can then be cut behind any newline: the statements of
the whole are those of the parts.
-/

namespace TraceArbiter.VendorCategories

open Std

/-! ### Lines that say nothing -/

/-- The line is blank or a comment. -/
def IsIgnored (line : String) : Prop :=
  Text.trim line = "" ∨ (Text.trim line).toList.head? = some '#'

instance (line : String) : Decidable (IsIgnored line) :=
  inferInstanceAs (Decidable (_ ∨ _))

def Line.isComment : Line → Bool
  | .comment => true
  | _ => false

theorem Line.parse_of_isIgnored {line : String} (h : IsIgnored line) : Line.parse line = .comment := by
  unfold Line.parse
  exact if_pos (by simpa [IsIgnored] using h)

theorem Line.parse_of_not_isIgnored {line : String} (h : ¬IsIgnored line) :
    Line.parse line =
      if line.toList.head?.any Text.isBlank then .ofEntry (Text.trim line)
      else .category (Text.trim line) := by
  unfold Line.parse
  exact if_neg (by simpa [IsIgnored] using h)

theorem Line.parse_unindented {line : String} (h : ¬IsIgnored line)
    (hhead : ∀ c ∈ line.toList.head?, Text.isBlank c = false) :
    Line.parse line = .category (Text.trim line) := by
  rw [parse_of_not_isIgnored h, if_neg]
  rw [Option.any_eq_true]
  rintro ⟨c, hc, hblank⟩
  rw [hhead c hc] at hblank
  cases hblank

theorem Line.isComment_ofEntry (entry : String) : (Line.ofEntry entry).isComment = false := by
  unfold Line.ofEntry
  split <;> rfl

theorem Line.isComment_parse (line : String) : (Line.parse line).isComment = decide (IsIgnored line) := by
  by_cases h : IsIgnored line
  · rw [Line.parse_of_isIgnored h, decide_eq_true h]
    rfl
  · rw [Line.parse_of_not_isIgnored h, decide_eq_false h]
    split
    · exact Line.isComment_ofEntry _
    · rfl

theorem isIgnored_empty : IsIgnored "" := by
  decide

/-- A carriage return at the end of a line makes no difference to what the line says. -/
theorem Line.parse_concat_return (cs : List Char) :
    Line.parse (String.ofList (cs ++ ['\r'])) = Line.parse (String.ofList cs) := by
  have htrim : Text.trim (String.ofList (cs ++ ['\r'])) = Text.trim (String.ofList cs) :=
    Text.trim_concat_blank (by decide) cs
  by_cases h : IsIgnored (String.ofList cs)
  · rw [parse_of_isIgnored h, parse_of_isIgnored]
    unfold IsIgnored at h ⊢
    rwa [htrim]
  · have hne : cs ≠ [] := by
      rintro rfl
      exact h isIgnored_empty
    have hhead : (cs ++ ['\r']).head? = cs.head? := List.head?_append_of_ne_nil cs hne
    rw [parse_of_not_isIgnored h, parse_of_not_isIgnored, htrim, String.toList_ofList,
      String.toList_ofList, hhead]
    unfold IsIgnored at h ⊢
    rwa [htrim]

theorem Line.parse_dropReturn (cs : List Char) :
    Line.parse (String.ofList (Text.dropReturn cs)) = Line.parse (String.ofList cs) := by
  unfold Text.dropReturn
  split
  · next hlast =>
    obtain ⟨front, rfl⟩ := List.getLast?_eq_some_iff.mp hlast
    rw [List.dropLast_concat, parse_concat_return]
  · rfl

/-! ### Statements -/

/-- What the lines of a text say, in order. -/
def statements (text : String) : List Line :=
  ((Text.lines text).map Line.parse).filter (!·.isComment)

theorem readLine_comment (state : Option String × VendorCategories) :
    readLine state .comment = state := by
  obtain ⟨_ | _, _⟩ := state <;> rfl

/-- Comments leave the open category open. -/
theorem foldl_readLine_filter (lines : List Line) (state : Option String × VendorCategories) :
    (lines.filter (!·.isComment)).foldl readLine state = lines.foldl readLine state := by
  induction lines generalizing state with
  | nil => rfl
  | cons line lines ih =>
    cases line with
    | comment =>
      rw [List.filter_cons_of_neg (by decide), ih, List.foldl_cons, readLine_comment]
    | category name => exact ih _
    | event name => exact ih _
    | malformed => exact ih _

theorem parse_eq (text : String) : parse text = ((statements text).foldl readLine (none, {})).2 := by
  rw [statements, foldl_readLine_filter, parse]

/-- The statements stand between the newlines, however the lines end. -/
theorem statements_eq (text : String) : statements text =
    ((text.toList.splitOn '\n').map (Line.parse ∘ String.ofList)).filter (!·.isComment) := by
  obtain ⟨front, last, hpieces⟩ :=
    List.eq_nil_or_concat (text.toList.splitOn '\n') |>.resolve_left (List.splitOn_ne_nil _ _)
  rw [List.concat_eq_append] at hpieces
  have hended : front.map ((Line.parse ∘ String.ofList) ∘ Text.dropReturn) =
      front.map (Line.parse ∘ String.ofList) := by
    refine List.map_congr_left fun cs _ => ?_
    rw [Function.comp_apply, Function.comp_apply, Function.comp_apply, Line.parse_dropReturn]
  have hlast : ((if last.isEmpty then [] else [last]).map (Line.parse ∘ String.ofList)).filter
        (!·.isComment) = [Line.parse (String.ofList last)].filter (!·.isComment) := by
    split
    · next hempty =>
      rw [List.isEmpty_iff.mp hempty, String.ofList_nil, Line.parse_of_isIgnored isIgnored_empty,
        List.filter_cons_of_neg (by decide), List.map_nil]
    · rw [List.map_singleton, Function.comp_apply]
  unfold statements Text.lines
  dsimp only
  rw [hpieces, List.dropLast_concat, List.getLastD_concat, List.map_map, List.map_append,
    List.map_map, hended, List.filter_append, hlast, List.map_append, List.filter_append,
    List.map_singleton, Function.comp_apply]

/-! ### Cutting a text into parts -/

/-- The text is empty, or its last line is ended. -/
def EndsLine (text : String) : Prop :=
  ∀ c ∈ text.toList.getLast?, c = '\n'

instance (text : String) : Decidable (EndsLine text) :=
  text.toList.getLast?.decidableForallMem

theorem statements_empty : statements "" = [] := by
  decide +kernel

theorem statements_append_newline (front back : String) :
    statements (front ++ "\n" ++ back) = statements front ++ statements back := by
  have hsplit : (front ++ "\n" ++ back).toList.splitOn '\n' =
      front.toList.splitOn '\n' ++ back.toList.splitOn '\n' := by
    rw [String.toList_append, String.toList_append, List.append_assoc]
    exact List.splitOn_append_cons_self _ _
  rw [statements_eq, statements_eq, statements_eq, hsplit, List.map_append, List.filter_append]

theorem statements_newline (text : String) : statements (text ++ "\n") = statements text := by
  have hcut := statements_append_newline text ""
  rwa [String.append_empty, statements_empty, List.append_nil] at hcut

theorem EndsLine.cases {text : String} (h : EndsLine text) :
    text = "" ∨ ∃ front, text = front ++ "\n" := by
  cases hlast : text.toList.getLast? with
  | none => exact .inl (String.toList_eq_nil_iff.mp (List.getLast?_eq_none_iff.mp hlast))
  | some c =>
    obtain rfl := h c hlast
    obtain ⟨front, hfront⟩ := List.getLast?_eq_some_iff.mp hlast
    refine .inr ⟨String.ofList front, String.toList_inj.mp ?_⟩
    rw [hfront, String.toList_append, String.toList_ofList]
    rfl

theorem EndsLine.statements_append {front : String} (h : EndsLine front) (back : String) :
    statements (front ++ back) = statements front ++ statements back := by
  obtain rfl | ⟨front, rfl⟩ := h.cases
  · rw [String.empty_append, statements_empty, List.nil_append]
  · rw [statements_append_newline, statements_newline]

/-- A line without a newline says one thing. -/
theorem statements_line {line : String} (hline : '\n' ∉ line.toList) :
    statements line = [Line.parse line].filter (!·.isComment) := by
  rw [statements_eq, List.splitOn_eq_singleton hline, List.map_singleton, Function.comp_apply,
    String.ofList_toList]

/-- Every text ends with a line, which may be empty. -/
theorem exists_lastLine (text : String) :
    ∃ front line, EndsLine front ∧ '\n' ∉ line.toList ∧ text = front ++ line := by
  refine ⟨String.ofList (text.toList.rdropWhile (· ≠ '\n')),
    String.ofList (text.toList.rtakeWhile (· ≠ '\n')), fun c hc => ?_, fun hmem => ?_, ?_⟩
  · rw [String.toList_ofList] at hc
    obtain ⟨hne, rfl⟩ := List.mem_getLast?_eq_getLast hc
    simpa using List.rdropWhile_last_not _ _ hne
  · rw [String.toList_ofList] at hmem
    simpa using List.mem_rtakeWhile_imp hmem
  · rw [← String.ofList_append, List.rdropWhile_append_rtakeWhile, String.ofList_toList]

/-- A carriage return in front of a newline makes no difference. -/
theorem statements_return (text : String) : statements (text ++ "\r") = statements text := by
  obtain ⟨front, line, hfront, hline, rfl⟩ := exists_lastLine text
  have hreturn : '\n' ∉ (line ++ "\r").toList := by
    rw [String.toList_append, List.mem_append, not_or]
    exact ⟨hline, by decide⟩
  have hparse : Line.parse (line ++ "\r") = Line.parse line := by
    have hconcat := Line.parse_concat_return line.toList
    rwa [String.ofList_append, String.ofList_toList] at hconcat
  rw [String.append_assoc, hfront.statements_append, hfront.statements_append,
    statements_line hreturn, statements_line hline, hparse]

end TraceArbiter.VendorCategories
