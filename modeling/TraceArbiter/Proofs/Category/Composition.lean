import Mathlib.Logic.Relation
import TraceArbiter.Proofs.Category.Statements

/-!
# Listings put one behind the other

While a listing is read, nothing is kept but the categories so far and the one that is open. What is
read is added to the categories so far, so they could as well be added in front at the end; and a
listing that opens a category before it names an event does not ask which one was open. Two such
listings, one behind the other, therefore give the categories of both. Nor is it kept where ignored
lines stood or how lines ended.
-/

namespace TraceArbiter.VendorCategories

open Std

/-! ### Reading on -/

/-- The first line that says something is not indented, if there is one. -/
def OpensCategory (text : String) : Prop :=
  ∀ line ∈ (Text.lines text).find? (¬IsIgnored ·), ∀ c ∈ line.toList.head?, Text.isBlank c = false

instance (text : String) : Decidable (OpensCategory text) :=
  @Option.decidableForallMem _ _ (fun line => line.toList.head?.decidableForallMem) _

theorem head?_statements (text : String) :
    (statements text).head? = ((Text.lines text).find? (¬IsIgnored ·)).map Line.parse := by
  have hignored : (fun line => !(Line.parse line).isComment) = fun line => decide ¬IsIgnored line := by
    funext line
    rw [Line.isComment_parse, decide_not]
  rw [statements, List.head?_filter, List.find?_map, ← hignored]
  rfl

theorem OpensCategory.exists_category {text : String} (h : OpensCategory text) {line : Line}
    {lines : List Line} (hlines : statements text = line :: lines) : ∃ name, line = .category name := by
  have hhead := head?_statements text
  rw [hlines, List.head?_cons] at hhead
  obtain ⟨first, hfirst, rfl⟩ := Option.map_eq_some_iff.mp hhead.symm
  have hfound : ¬IsIgnored first := by simpa using List.find?_some hfirst
  exact ⟨Text.trim first, Line.parse_unindented hfound (h first hfirst)⟩

/-- What a line adds is added behind whatever was there before. -/
theorem readLine_merge (v : VendorCategories) (state : Option String × VendorCategories) (line : Line) :
    readLine (state.1, v.merge state.2) line =
      ((readLine state line).1, v.merge (readLine state line).2) := by
  obtain ⟨open?, w⟩ := state
  cases line with
  | comment => rw [readLine_comment, readLine_comment]
  | category name => rw [readLine, readLine, merge_extend]
  | event n =>
    cases open? with
    | none => rfl
    | some category => rw [readLine, readLine, merge_extend]
  | malformed => cases open? <;> rfl

theorem foldl_readLine_merge (lines : List Line) (open? : Option String) (v : VendorCategories) :
    (lines.foldl readLine (open?, v)).2 = v.merge (lines.foldl readLine (open?, {})).2 := by
  have hhom : ∀ state : Option String × VendorCategories,
      lines.foldl readLine (state.1, v.merge state.2) =
        ((lines.foldl readLine state).1, v.merge (lines.foldl readLine state).2) :=
    fun _ => List.foldl_hom (fun s : Option String × _ => (s.1, v.merge s.2)) (readLine_merge v)
  have hopen := hhom (open?, {})
  rw [merge_empty] at hopen
  rw [hopen]

/-- The first of the lines does not ask which category is open. -/
theorem OpensCategory.foldl_readLine {text : String} (h : OpensCategory text) (open? : Option String) :
    ((statements text).foldl readLine (open?, {})).2 = parse text := by
  rw [parse_eq]
  cases hlines : statements text with
  | nil => rfl
  | cons line lines =>
    obtain ⟨name, rfl⟩ := h.exists_category hlines
    rfl

theorem parse_append {front back : String} (hfront : EndsLine front) (hback : OpensCategory back) :
    parse (front ++ back) = (parse front).merge (parse back) := by
  rw [parse_eq (front ++ back), hfront.statements_append, List.foldl_append, foldl_readLine_merge,
    hback.foldl_readLine, ← parse_eq]

/-! ### Layout -/

/-- The second text is the first with one more line that says nothing, or with another line ending,
or with an ending for its last line. -/
inductive Relaid : String → String → Prop
  | ignored (front back : String) {line : String} (hfront : EndsLine front)
      (hline : '\n' ∉ line.toList) (hignored : IsIgnored line) :
      Relaid (front ++ back) (front ++ (line ++ "\n") ++ back)
  | ending (front back : String) : Relaid (front ++ "\n" ++ back) (front ++ "\r\n" ++ back)
  | lastEnding (text : String) : Relaid text (text ++ "\n")

theorem Relaid.statements_eq {text text' : String} (h : Relaid text text') :
    statements text = statements text' := by
  cases h with
  | ignored front back hfront hline hignored =>
    rw [String.append_assoc, hfront.statements_append, hfront.statements_append,
      statements_append_newline, statements_line hline, Line.parse_of_isIgnored hignored,
      List.filter_cons_of_neg (by decide), List.filter_nil, List.nil_append]
  | ending front back =>
    have hend : front ++ "\r\n" = front ++ "\r" ++ "\n" := by
      rw [String.append_assoc]
      rfl
    rw [hend, statements_append_newline, statements_append_newline, statements_return]
  | lastEnding text => exact (statements_newline text).symm

/-- Listings go together: behind a text that is empty or ends its last line, a text whose first line
that says something is not indented adds its categories, and its events behind those that the
categories have. And however lines that say nothing are put in or taken out, and whichever lines end
with a carriage return before the newline, the same is read. -/
theorem parse_composes :
    (∀ front back, EndsLine front → OpensCategory back →
      parse (front ++ back) = ofList ((parse front).toList ++ (parse back).toList) ∧
        (∀ category, category ∈ (parse (front ++ back)).events ↔
          category ∈ (parse front).events ∨ category ∈ (parse back).events) ∧
        ∀ category, (parse (front ++ back)).eventsOf category =
          (parse front).eventsOf category ++ (parse back).eventsOf category) ∧
      ∀ text text', Relation.EqvGen Relaid text text' → parse text = parse text' := by
  constructor
  · intro front back hfront hback
    rw [parse_append hfront hback]
    refine ⟨?_, fun category => mem_merge, fun category => eventsOf_merge⟩
    rw [ofList, List.foldl_append, ← ofList, ofList_toList, merge]
  · intro text text' h
    have hsame : statements text = statements text' := by
      induction h with
      | rel _ _ hstep => exact hstep.statements_eq
      | refl => rfl
      | symm _ _ _ ih => exact ih.symm
      | trans _ _ _ _ _ ih ih' => exact ih.trans ih'
    rw [parse_eq, parse_eq, hsame]

def firstListing : String :=
  "gfx\r\n mdss/commit\n"

/-- Goes on with a category, behind lines that say nothing, and does not end its last line. -/
def furtherListing : String :=
  "\n # more\n\t\nion\n kmem/alloc\ngfx\n mdss/underrun"

/-- One more comment, and one line ended in the other way. -/
def relaidListing : String :=
  "gfx" ++ "\n" ++ ("\t# note" ++ "\n") ++ " mdss/commit\n"

theorem parse_composes_firstListing :
    EndsLine firstListing ∧ OpensCategory furtherListing ∧
      (parse (firstListing ++ furtherListing)).toList =
        [("gfx", [⟨"mdss", "commit"⟩, ⟨"mdss", "underrun"⟩]), ("ion", [⟨"kmem", "alloc"⟩])] ∧
      parse (firstListing ++ furtherListing) =
        ofList ((parse firstListing).toList ++ (parse furtherListing).toList) ∧
      Relation.EqvGen Relaid firstListing relaidListing ∧
      parse firstListing = parse relaidListing := by
  obtain ⟨happend, hrelaid⟩ := parse_composes
  have hfront : EndsLine firstListing := by decide +kernel
  have hback : OpensCategory furtherListing := by decide +kernel
  have hsteps : Relation.EqvGen Relaid firstListing relaidListing :=
    .trans _ ("gfx" ++ "\n" ++ " mdss/commit\n") _ (.symm _ _ (.rel _ _ (.ending _ _)))
      (.rel _ _ (.ignored _ _ (by decide +kernel) (by decide +kernel) (by decide +kernel)))
  exact ⟨hfront, hback, by decide +kernel, (happend _ _ hfront hback).1, hsteps, hrelaid _ _ hsteps⟩

/-- An event that is named first is left out if its listing stands alone. -/
example :
    parse " mdss/commit\n" = {} ∧
      (parse ("gfx\n" ++ " mdss/commit\n")).eventsOf "gfx" = [⟨"mdss", "commit"⟩] := by
  decide +kernel

end TraceArbiter.VendorCategories
