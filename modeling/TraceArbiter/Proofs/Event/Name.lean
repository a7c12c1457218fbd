import Mathlib.Data.List.Basic
import TraceArbiter.Event.Name
import TraceArbiter.Proofs.Text.Pieces

/-!
# Names and their spelling

Splitting at the first slash reads a name back from its spelling as long as there is no slash in the
group. Names without any slashes are told apart by their spelling from all other names.
-/

namespace TraceArbiter

variable {m n : EventName}

namespace EventName

theorem toList_toString (n : EventName) :
    (toString n).toList = n.group.toList ++ '/' :: n.name.toList := by
  change (n.group ++ "/" ++ n.name).toList = _
  simp

theorem group_parse (s : String) : '/' ∉ (parse s).group.toList := by
  unfold parse
  split
  · next hspan =>
    rw [String.toList_ofList]
    exact notMem_of_span_slash hspan
  · exact List.not_mem_nil

theorem parse_toString (hgroup : '/' ∉ n.group.toList) : parse (toString n) = n := by
  unfold parse
  rw [toList_toString, span_slash hgroup]
  simp only [String.ofList_toList]

end EventName

theorem toString_inj (hgroup : '/' ∉ m.group.toList) (hname : '/' ∉ m.name.toList)
    (h : toString m = toString n) : m = n := by
  have hlist := congrArg String.toList h
  rw [EventName.toList_toString, EventName.toList_toString] at hlist
  obtain ⟨hg, -, hn⟩ := (List.append_cons_inj_of_notMem hgroup hname).mp hlist
  cases m
  cases n
  exact congrArg₂ EventName.mk (String.toList_injective hg) (String.toList_injective hn)

end TraceArbiter
