import TraceArbiter.Proofs.Syscall.Union
import TraceArbiter.Proofs.Text.Numeral

/-!
# Reading filter expressions

What a filter file does to system calls, by its text: a file that is not there or that is cleared
lets every call through, any other text the calls of its clauses. A filter that restricts anything is
written so that exactly its calls are let through.
-/

namespace TraceArbiter

open Std

/-! ### Clauses -/

namespace SyscallFilter

/-- The parts of a text between the places where ` || ` stands. -/
def splitClauses : List Char → List (List Char)
  | [] => [[]]
  | ' ' :: '|' :: '|' :: ' ' :: rest => [] :: splitClauses rest
  | c :: rest =>
    match splitClauses rest with
    | [] => [[c]]
    | part :: parts => (c :: part) :: parts

def readClause (clause : List Char) : Option SyscallId :=
  if "id == ".toList.isPrefixOf clause then
    Text.readDecimal (String.ofList (clause.drop "id == ".toList.length))
  else Option.none

/-- Whether a filter file with this text, if it is there, lets a call through. -/
def fileAdmits (file : Option String) (call : SyscallId) : Bool :=
  match file with
  | Option.none => true
  | some text =>
    text = clearExpression || (splitClauses text.toList).any (readClause · = some call)

theorem readClause_clause (call : SyscallId) : readClause (clause call).toList = some call := by
  have htext : (clause call).toList = "id == ".toList ++ (Text.writeDecimal call).toList := by
    rw [clause, String.toList_append]
  unfold readClause
  rw [htext, if_pos (List.isPrefixOf_iff_prefix.mpr (List.prefix_append ..)), List.drop_left,
    String.ofList_toList, Text.readDecimal_writeDecimal]

theorem bar_notMem_clause (call : SyscallId) : '|' ∉ (clause call).toList := by
  rw [clause, String.toList_append, List.mem_append]
  rintro (h | h)
  · exact absurd h (by decide)
  · exact absurd (Text.isDigit_of_mem_writeDecimal h) (by decide)

theorem splitClauses_cons {c : Char} {rest part : List Char} {parts : List (List Char)}
    (hrest : splitClauses rest = part :: parts) (hbar : c = ' ' → rest.head? ≠ some '|') :
    splitClauses (c :: rest) = (c :: part) :: parts := by
  rw [splitClauses]
  · rw [hrest]
  · rintro rest' rfl rfl
    exact hbar rfl rfl

theorem splitClauses_of_notMem {part : List Char} (h : '|' ∉ part) : splitClauses part = [part] := by
  induction part with
  | nil => rfl
  | cons c part ih =>
    rw [List.mem_cons, not_or] at h
    refine splitClauses_cons (ih h.2) fun _ hhead => h.2 (List.mem_of_mem_head? hhead)

theorem splitClauses_append {part rest : List Char} (h : '|' ∉ part) :
    splitClauses (part ++ " || ".toList ++ rest) = part :: splitClauses rest := by
  induction part with
  | nil => rfl
  | cons c part ih =>
    rw [List.mem_cons, not_or] at h
    refine splitClauses_cons (ih h.2) fun _ hhead => ?_
    cases part with
    | nil => cases hhead
    | cons c' part =>
      cases hhead
      exact h.2 (.head _)

theorem splitClauses_intercalate {parts : List (List Char)} (hparts : parts ≠ [])
    (h : ∀ part ∈ parts, '|' ∉ part) : splitClauses (" || ".toList.intercalate parts) = parts := by
  induction parts with
  | nil => exact absurd rfl hparts
  | cons part parts ih =>
    cases parts with
    | nil =>
      rw [List.intercalate_singleton]
      exact splitClauses_of_notMem (h part (.head _))
    | cons part' parts =>
      rw [List.intercalate_cons_cons, splitClauses_append (h part (.head _)),
        ih (List.cons_ne_nil _ _) fun part hpart => h part (.tail _ hpart)]

/-! ### Expressions -/

theorem expression_congr {f g : SyscallFilter} (h : f.restriction = g.restriction) :
    f.expression = g.expression := by
  unfold expression
  rw [h]

theorem toList_ne_nil_of_restriction {f : SyscallFilter} {ids : ExtTreeSet SyscallId}
    (h : f.restriction = some ids) : ids.toList ≠ [] := by
  unfold restriction at h
  split at h
  · split at h
    · cases h
    · next hnonempty =>
      cases h
      rwa [ne_eq, ← List.isEmpty_iff, ExtTreeSet.isEmpty_toList]
  · cases h

theorem splitClauses_expression {f : SyscallFilter} {ids : ExtTreeSet SyscallId}
    (h : f.restriction = some ids) :
    splitClauses f.expression.toList = ids.toList.map fun call => (clause call).toList := by
  unfold expression
  rw [h]
  dsimp only
  rw [String.toList_intercalate, List.map_map]
  refine splitClauses_intercalate ?_ ?_
  · rw [ne_eq, List.map_eq_nil_iff]
    exact toList_ne_nil_of_restriction h
  · intro part hpart
    obtain ⟨call, -, rfl⟩ := List.mem_map.mp hpart
    exact bar_notMem_clause call

/-- What the clauses of a text name, in order. -/
def clausesOf (text : String) : List (Option SyscallId) :=
  (splitClauses text.toList).map readClause

theorem clausesOf_expression {f : SyscallFilter} {ids : ExtTreeSet SyscallId}
    (h : f.restriction = some ids) : clausesOf f.expression = ids.toList.map some := by
  unfold clausesOf
  rw [splitClauses_expression h, List.map_map]
  exact List.map_congr_left fun call _ => readClause_clause call

theorem clausesOf_clearExpression : clausesOf clearExpression = [Option.none] := by
  decide

theorem expression_of_restriction {f : SyscallFilter} (h : f.restriction = Option.none) :
    f.expression = clearExpression := by
  unfold expression
  rw [h]

theorem expression_ne_clear {f : SyscallFilter} {ids : ExtTreeSet SyscallId}
    (h : f.restriction = some ids) : f.expression ≠ clearExpression := by
  intro hclear
  have hclauses := clausesOf_expression h
  rw [hclear, clausesOf_clearExpression] at hclauses
  have hmem : Option.none ∈ ids.toList.map some := hclauses ▸ List.mem_singleton_self _
  obtain ⟨call, -, hcall⟩ := List.mem_map.mp hmem
  cases hcall

theorem expression_eq_clear_iff {f : SyscallFilter} :
    f.expression = clearExpression ↔ f.restriction = Option.none := by
  refine ⟨fun hclear => ?_, expression_of_restriction⟩
  cases hrestriction : f.restriction with
  | none => rfl
  | some ids => exact absurd hclear (expression_ne_clear hrestriction)

/-- Filters are written alike exactly if they restrict to the same calls. -/
theorem expression_eq_iff {f g : SyscallFilter} :
    f.expression = g.expression ↔ f.restriction = g.restriction := by
  refine ⟨fun h => ?_, expression_congr⟩
  cases hf : f.restriction with
  | none =>
    rw [expression_of_restriction hf] at h
    exact (expression_eq_clear_iff.mp h.symm).symm
  | some ids =>
    cases hg : g.restriction with
    | none => exact absurd (h.trans (expression_of_restriction hg)) (expression_ne_clear hf)
    | some ids' =>
      have hclauses := congrArg clausesOf h
      rw [clausesOf_expression hf, clausesOf_expression hg] at hclauses
      have hlists := (List.map_inj_right fun _ _ => Option.some.inj).mp hclauses
      congr 1
      ext call
      rw [← ExtTreeSet.mem_toList, hlists, ExtTreeSet.mem_toList]

/-- A filter lets through the calls that it restricts to, and every call if it restricts nothing. -/
theorem fileAdmits_expression (f : SyscallFilter) (call : SyscallId) :
    fileAdmits (some f.expression) call ↔ ∀ ids, f.restriction = some ids → call ∈ ids := by
  cases hrestriction : f.restriction with
  | none =>
    simp [fileAdmits, expression_of_restriction hrestriction]
  | some ids =>
    have hsplit := splitClauses_expression hrestriction
    have htext := expression_ne_clear hrestriction
    simp only [fileAdmits, htext, hsplit, List.any_map, Function.comp_def, readClause_clause,
      Option.some_inj, Bool.or_eq_true, decide_eq_true_eq, List.any_eq_true, ExtTreeSet.mem_toList]
    simp

theorem fileAdmits_of_admits {f : SyscallFilter} {call : SyscallId} (h : f.admits call) :
    fileAdmits (some f.expression) call :=
  (fileAdmits_expression f call).mpr fun _ hids => (admits_of_restriction hids).mp h

theorem fileAdmits_getD (file : Option String) (call : SyscallId) :
    fileAdmits (some (file.getD clearExpression)) call = fileAdmits file call := by
  cases file <;> simp [fileAdmits]

end SyscallFilter

end TraceArbiter
