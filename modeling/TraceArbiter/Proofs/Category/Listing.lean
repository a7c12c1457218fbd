import TraceArbiter.Proofs.Category.Statements
import TraceArbiter.Proofs.Event.Name
import TraceArbiter.Proofs.Text.Words

/-!
# Categories written as a listing

A category can be written on a line of its own if it is what trimming leaves of a line that is no comment.
An event can be written below it if its group can begin such a line, ends where the first slash is, and
its name can end the line. Reading a listing gives categories and events of this kind only, whatever the
text; and every vendor's categories of this kind can be written as a listing, from which they are read
back.
-/

namespace TraceArbiter

open Std

/-- What a line of a listing can hold: trimmed text that is not taken for a comment. -/
structure IsEntry (text : String) : Prop where
  ne_empty : text ≠ ""
  trimmed : Text.IsTrimmed text.toList
  oneLine : '\n' ∉ text.toList
  noComment : text.toList.head? ≠ some '#'

instance (text : String) : Decidable (IsEntry text) :=
  decidable_of_iff
    (text ≠ "" ∧ Text.IsTrimmed text.toList ∧ '\n' ∉ text.toList ∧ text.toList.head? ≠ some '#')
    ⟨fun h => ⟨h.1, h.2.1, h.2.2.1, h.2.2.2⟩,
      fun h => ⟨h.ne_empty, h.trimmed, h.oneLine, h.noComment⟩⟩

namespace EventName

variable {n : EventName}

/-- The event can be written below a category. The name may have slashes, and blanks inside it or in
front. -/
structure IsListable (n : EventName) : Prop where
  group_ne : n.group ≠ ""
  slashFree : '/' ∉ n.group.toList
  group_oneLine : '\n' ∉ n.group.toList
  group_head : ∀ c ∈ n.group.toList.head?, Text.isBlank c = false ∧ c ≠ '#'
  name_ne : n.name ≠ ""
  name_oneLine : '\n' ∉ n.name.toList
  name_last : ∀ c ∈ n.name.toList.getLast?, Text.isBlank c = false

instance (n : EventName) : Decidable n.IsListable :=
  have : Decidable (∀ c ∈ n.group.toList.head?, Text.isBlank c = false ∧ c ≠ '#') :=
    n.group.toList.head?.decidableForallMem
  have : Decidable (∀ c ∈ n.name.toList.getLast?, Text.isBlank c = false) :=
    n.name.toList.getLast?.decidableForallMem
  decidable_of_iff
    (n.group ≠ "" ∧ '/' ∉ n.group.toList ∧ '\n' ∉ n.group.toList ∧
      (∀ c ∈ n.group.toList.head?, Text.isBlank c = false ∧ c ≠ '#') ∧
      n.name ≠ "" ∧ '\n' ∉ n.name.toList ∧ ∀ c ∈ n.name.toList.getLast?, Text.isBlank c = false)
    ⟨fun ⟨h₁, h₂, h₃, h₄, h₅, h₆, h₇⟩ => ⟨h₁, h₂, h₃, h₄, h₅, h₆, h₇⟩,
      fun h => ⟨h.group_ne, h.slashFree, h.group_oneLine, h.group_head, h.name_ne, h.name_oneLine,
        h.name_last⟩⟩

theorem IsListable.isEntry (h : n.IsListable) : IsEntry (toString n) := by
  have hgroup : n.group.toList ≠ [] := mt String.toList_eq_nil_iff.mp h.group_ne
  have hname : n.name.toList ≠ [] := mt String.toList_eq_nil_iff.mp h.name_ne
  have hhead : (toString n).toList.head? = n.group.toList.head? := by
    rw [toList_toString, List.head?_append_of_ne_nil _ hgroup]
  have hlast : (toString n).toList.getLast? = n.name.toList.getLast? := by
    rw [toList_toString, List.getLast?_append_of_ne_nil _ (List.cons_ne_nil _ _),
      List.getLast?_cons_of_ne_nil hname]
  constructor
  · rw [ne_eq, ← String.toList_eq_nil_iff, toList_toString]
    simp
  · constructor
    · rw [hhead]
      exact fun c hc => (h.group_head c hc).1
    · rw [hlast]
      exact h.name_last
  · rw [toList_toString]
    simp [h.group_oneLine, h.name_oneLine]
  · rw [hhead]
    exact fun hc => (h.group_head '#' hc).2 rfl

end EventName

namespace VendorCategories

variable {v : VendorCategories} {line : String} {n : EventName}

/-! ### What lines say -/

theorem isEntry_trim (hline : '\n' ∉ line.toList) (h : ¬IsIgnored line) : IsEntry (Text.trim line) where
  ne_empty hempty := h (.inl hempty)
  trimmed := Text.isTrimmed_trim line
  oneLine hmem := hline (Text.mem_of_mem_trim hmem)
  noComment hhead := h (.inr hhead)

theorem not_isIgnored_of_trim (h : IsEntry (Text.trim line)) : ¬IsIgnored line :=
  not_or_intro h.ne_empty h.noComment

theorem Line.parse_entry (h : IsEntry line) : Line.parse line = .category line := by
  have htrim := Text.trim_eq_self h.trimmed
  rw [parse_unindented (not_isIgnored_of_trim (htrim.symm ▸ h)) h.trimmed.1, htrim]

/-- Behind a blank, the text is the entry of an event. -/
theorem Line.parse_indented (h : IsEntry line) : Line.parse (" " ++ line) = .ofEntry line := by
  have hlist : (" " ++ line).toList = ' ' :: line.toList := by
    rw [String.toList_append]
    rfl
  have htrim : Text.trim (" " ++ line) = line := by
    rw [← String.ofList_toList (s := " " ++ line), hlist, Text.trim_cons_blank (by decide),
      String.ofList_toList, Text.trim_eq_self h.trimmed]
  rw [parse_of_not_isIgnored (not_isIgnored_of_trim (htrim.symm ▸ h)), htrim, hlist, if_pos]
  rfl

theorem Line.ofEntry_toString (h : n.IsListable) : Line.ofEntry (toString n) = .event n := by
  obtain ⟨g, group, hgroup⟩ :=
    List.exists_cons_of_ne_nil (mt String.toList_eq_nil_iff.mp h.group_ne)
  obtain ⟨c, name, hname⟩ :=
    List.exists_cons_of_ne_nil (mt String.toList_eq_nil_iff.mp h.name_ne)
  unfold Line.ofEntry
  rw [EventName.toList_toString, span_slash h.slashFree, hgroup, hname]
  dsimp only
  rw [← hgroup, ← hname, String.ofList_toList, String.ofList_toList]

/-- What the line adds can be written in a listing. -/
inductive Line.IsListable : Line → Prop
  | comment : IsListable .comment
  | category {name : String} (hname : IsEntry name) : IsListable (.category name)
  | event {n : EventName} (hn : n.IsListable) : IsListable (.event n)
  | malformed : IsListable .malformed

theorem Line.isListable_ofEntry {entry : String} (hentry : IsEntry entry) :
    (Line.ofEntry entry).IsListable := by
  unfold Line.ofEntry
  split
  · next g group c first name hspan =>
    have hslash := notMem_of_span_slash hspan
    rw [List.span_eq_takeWhile_dropWhile, Prod.mk.injEq] at hspan
    have hlist : entry.toList = (g :: group) ++ c :: first :: name := by
      rw [← hspan.1, ← hspan.2, List.takeWhile_append_dropWhile]
    have hnewline := hlist ▸ hentry.oneLine
    have htrimmed := hlist ▸ hentry.trimmed
    have hcomment := hlist ▸ hentry.noComment
    refine .event ⟨by simp, ?_, ?_, ?_, by simp, ?_, ?_⟩
    · rwa [String.toList_ofList]
    · rw [String.toList_ofList]
      exact fun hmem => hnewline (List.mem_append_left _ hmem)
    · rw [String.toList_ofList]
      rintro c' hc'
      obtain rfl := Option.some.inj hc'
      exact ⟨htrimmed.1 g rfl, fun heq => hcomment (congrArg some heq)⟩
    · rw [String.toList_ofList]
      exact fun hmem => hnewline (List.mem_append_right _ (.tail _ hmem))
    · rw [String.toList_ofList]
      intro c' hc'
      refine htrimmed.2 c' ?_
      rwa [List.getLast?_append_of_ne_nil _ (List.cons_ne_nil _ _),
        List.getLast?_cons_of_ne_nil (List.cons_ne_nil _ _)]
  · exact .malformed

theorem Line.isListable_parse (hline : '\n' ∉ line.toList) : (Line.parse line).IsListable := by
  by_cases h : IsIgnored line
  · rw [parse_of_isIgnored h]
    exact .comment
  · have hentry := isEntry_trim hline h
    rw [parse_of_not_isIgnored h]
    split
    · exact isListable_ofEntry hentry
    · exact .category hentry

theorem isListable_of_mem_statements {text : String} {line : Line} (h : line ∈ statements text) :
    line.IsListable := by
  rw [statements_eq, List.mem_filter, List.mem_map] at h
  obtain ⟨⟨cs, hcs, rfl⟩, -⟩ := h
  rw [List.splitOn_eq_splitOnP] at hcs
  have honeLine : '\n' ∉ (String.ofList cs).toList := by
    rw [String.toList_ofList]
    exact fun hmem => absurd (Text.eq_false_of_mem_splitOnP hcs '\n' hmem) (by decide)
  rw [Function.comp_apply]
  exact Line.isListable_parse honeLine

/-! ### What a listing gives -/

/-- All categories and events can be written in a listing. -/
def IsListable (v : VendorCategories) : Prop :=
  ∀ entry ∈ v.toList, IsEntry entry.1 ∧ ∀ n ∈ entry.2, n.IsListable

instance (v : VendorCategories) : Decidable v.IsListable :=
  inferInstanceAs (Decidable (∀ entry ∈ v.toList, _ ∧ _))

theorem isListable_iff : v.IsListable ↔
    (∀ category ∈ v.events, IsEntry category) ∧
      ∀ category, ∀ n ∈ v.eventsOf category, n.IsListable := by
  constructor
  · intro h
    refine ⟨fun category hmem => (h _ (mem_toList_eventsOf hmem)).1, fun category n hn => ?_⟩
    by_cases hmem : category ∈ v.events
    · exact (h _ (mem_toList_eventsOf hmem)).2 n hn
    · rw [eventsOf_eq_nil hmem] at hn
      cases hn
  · rintro ⟨hcategories, hevents⟩ ⟨category, events⟩ hentry
    have hmem : category ∈ v.events := mem_map_fst_toList.mp (List.mem_map.mpr ⟨_, hentry, rfl⟩)
    have hsame := eventsOf_of_mem_toList hentry
    exact ⟨hcategories category hmem, hsame ▸ hevents category⟩

theorem isListable_empty : IsListable {} := by
  intro entry hentry
  rw [toList_empty] at hentry
  cases hentry

theorem IsListable.extend (h : v.IsListable) {category : String} {events : List EventName}
    (hcategory : IsEntry category) (hevents : ∀ n ∈ events, n.IsListable) :
    (v.extend category events).IsListable := by
  rw [isListable_iff] at h ⊢
  refine ⟨fun other hmem => ?_, fun other n hn => ?_⟩
  · obtain rfl | hmem := mem_extend.mp hmem
    · exact hcategory
    · exact h.1 other hmem
  · rw [eventsOf_extend] at hn
    split at hn
    · exact (List.mem_append.mp hn).elim (h.2 other n) (hevents n)
    · exact h.2 other n hn

/-- Of the open category it is enough to know that it can be written. -/
theorem IsListable.readLine {state : Option String × VendorCategories} {line : Line}
    (h : state.2.IsListable ∧ ∀ category ∈ state.1, IsEntry category) (hline : line.IsListable) :
    (readLine state line).2.IsListable ∧ ∀ category ∈ (readLine state line).1, IsEntry category := by
  obtain ⟨open?, v⟩ := state
  cases hline with
  | comment => rwa [readLine_comment]
  | category hname =>
    refine ⟨h.1.extend hname nofun, fun category hopen => ?_⟩
    obtain rfl := Option.some.inj hopen
    exact hname
  | event hn =>
    cases open? with
    | none => exact h
    | some category =>
      refine ⟨h.1.extend (h.2 category rfl) fun m hm => ?_, h.2⟩
      rwa [List.mem_singleton.mp hm]
  | malformed => cases open? <;> exact h

theorem isListable_parse (text : String) : (parse text).IsListable := by
  have hfold : ∀ (lines : List Line) (state : Option String × VendorCategories),
      (∀ line ∈ lines, line.IsListable) →
        (state.2.IsListable ∧ ∀ category ∈ state.1, IsEntry category) →
          (lines.foldl VendorCategories.readLine state).2.IsListable := by
    intro lines
    induction lines with
    | nil => exact fun _ _ h => h.1
    | cons line lines ih =>
      intro state hlines h
      exact ih _ (fun line hmem => hlines line (.tail _ hmem))
        (IsListable.readLine h (hlines line (.head _)))
  rw [parse_eq]
  exact hfold _ _ (fun line => isListable_of_mem_statements) ⟨isListable_empty, nofun⟩

/-! ### Writing a listing -/

/-- The lines for a category and its events. -/
def linesFor (entry : String × List EventName) : List String :=
  entry.1 :: entry.2.map fun n => " " ++ toString n

/-- The listing of categories, each with its events below it. -/
def listing (entries : List (String × List EventName)) : String :=
  String.join ((entries.flatMap linesFor).map (· ++ "\n"))

theorem statements_join {lines : List String} (h : ∀ line ∈ lines, '\n' ∉ line.toList) :
    statements (String.join (lines.map (· ++ "\n"))) =
      (lines.map Line.parse).filter (!·.isComment) := by
  induction lines with
  | nil => exact statements_empty
  | cons line lines ih =>
    rw [List.map_cons, String.join_cons, statements_append_newline, statements_line (h line (.head _)),
      ih fun line hmem => h line (.tail _ hmem), ← List.filter_append]
    rfl

/-- What the lines for a category and its events say. -/
def statementsFor (entry : String × List EventName) : List Line :=
  .category entry.1 :: entry.2.map .event

variable {entries : List (String × List EventName)}
  (h : ∀ entry ∈ entries, IsEntry entry.1 ∧ ∀ n ∈ entry.2, n.IsListable)

include h

theorem oneLine_of_mem_linesFor (hline : line ∈ entries.flatMap linesFor) : '\n' ∉ line.toList := by
  obtain ⟨entry, hentry, hmem⟩ := List.mem_flatMap.mp hline
  obtain rfl | hmem := List.mem_cons.mp hmem
  · exact (h entry hentry).1.oneLine
  · obtain ⟨n, hn, rfl⟩ := List.mem_map.mp hmem
    rw [String.toList_append, List.mem_append, not_or]
    exact ⟨by decide, ((h entry hentry).2 n hn).isEntry.oneLine⟩

theorem map_parse_linesFor {entry : String × List EventName} (hentry : entry ∈ entries) :
    (linesFor entry).map Line.parse = statementsFor entry := by
  obtain ⟨hcategory, hlistable⟩ := h entry hentry
  have hevents : entry.2.map (Line.parse ∘ fun n => " " ++ toString n) = entry.2.map .event := by
    refine List.map_congr_left fun n hn => ?_
    have hn := hlistable n hn
    rw [Function.comp_apply, Line.parse_indented hn.isEntry, Line.ofEntry_toString hn]
  unfold linesFor statementsFor
  rw [List.map_cons, Line.parse_entry hcategory, List.map_map, hevents]

theorem statements_listing : statements (listing entries) = entries.flatMap statementsFor := by
  have hparse : (entries.flatMap linesFor).map Line.parse = entries.flatMap statementsFor := by
    rw [List.map_flatMap]
    exact List.flatMap_congr fun entry => map_parse_linesFor h
  rw [listing, statements_join fun line => oneLine_of_mem_linesFor h, hparse, List.filter_eq_self]
  intro line hline
  obtain ⟨entry, -, hmem⟩ := List.mem_flatMap.mp hline
  obtain rfl | hmem := List.mem_cons.mp hmem
  · rfl
  · obtain ⟨n, -, rfl⟩ := List.mem_map.mp hmem
    rfl

omit h in
theorem foldl_readLine_events (category : String) (events events' : List EventName)
    (v : VendorCategories) :
    (events'.map Line.event).foldl readLine (some category, v.extend category events) =
      (some category, v.extend category (events ++ events')) := by
  induction events' generalizing events with
  | nil => rw [List.append_nil, List.map_nil, List.foldl_nil]
  | cons n events' ih =>
    rw [List.map_cons, List.foldl_cons, readLine, extend_extend, ih, List.append_assoc,
      List.singleton_append]

omit h in
theorem foldl_readLine_statementsFor (open? : Option String) (v : VendorCategories) :
    ((entries.flatMap statementsFor).foldl readLine (open?, v)).2 =
      entries.foldl (fun v entry => v.extend entry.1 entry.2) v := by
  induction entries generalizing open? v with
  | nil => rfl
  | cons entry entries ih =>
    rw [List.flatMap_cons, List.foldl_append, statementsFor, List.foldl_cons, readLine,
      foldl_readLine_events, List.nil_append, ih, List.foldl_cons]

/-- A category may be listed several times; its events are then put together. -/
theorem parse_listing : parse (listing entries) = ofList entries := by
  rw [parse_eq, statements_listing h, foldl_readLine_statementsFor, ofList]

omit h

/-- Whatever the text, what is read from it can be written in a listing. Whatever can be written in a
listing is read back from it, so that writing what was read from a text and reading it again changes
nothing. -/
theorem parse_writtenBack :
    (∀ text, (parse text).IsListable) ∧
      (∀ v : VendorCategories, v.IsListable → parse (listing v.toList) = v) ∧
      ∀ text, parse (listing (parse text).toList) = parse text := by
  have hback : ∀ v : VendorCategories, v.IsListable → parse (listing v.toList) = v := by
    intro v hv
    rw [parse_listing hv, ofList_toList]
  exact ⟨isListable_parse, hback, fun text => hback _ (isListable_parse text)⟩

/-- Names that look like something else: a slash, a `#` or a carriage return inside a category; blanks,
slashes or a `#` in the name of an event; and a category without events. -/
def strangeVendor : VendorCategories :=
  .ofList [("gfx #1", [⟨"mdss", " mdp/commit #2"⟩, ⟨"a b", "/"⟩, ⟨"mdss", " mdp/commit #2"⟩]),
    ("a\rb/c", []), ("/", [⟨"*", "#"⟩])]

theorem parse_writtenBack_strangeVendor :
    strangeVendor.IsListable ∧
      listing strangeVendor.toList =
        "/\n */#\na\rb/c\ngfx #1\n mdss/ mdp/commit #2\n a b//\n mdss/ mdp/commit #2\n" ∧
      parse (listing strangeVendor.toList) = strangeVendor := by
  have hlistable : strangeVendor.IsListable := by decide +kernel
  exact ⟨hlistable, by decide +kernel, parse_writtenBack.2.1 strangeVendor hlistable⟩

end VendorCategories

end TraceArbiter
