import TraceArbiter.Proofs.Json.RoundTrip
import TraceArbiter.Wire.Basic

/-!
# Lawful wire forms

A wire form is lawful if what it writes can be spelled and is read back as the same value. The text
that a lawful form prints then stands for the value that was printed. Values without structure,
lists and sets are lawful, and for records and choices the fields that were written are the fields
that are found.
-/

namespace TraceArbiter

open Std Json

/-- Wire forms whose written form can be spelled and is read back. -/
class LawfulWire (α : Type) [Wire α] : Prop where
  isSpelled_toJson (a : α) : (Wire.toJson a).isSpelled
  ofJson?_toJson (a : α) : Wire.ofJson? (Wire.toJson a) = some a

namespace Wire

export LawfulWire (isSpelled_toJson ofJson?_toJson)

variable {α : Type}

theorem ofList_toList [DecidableEq α] [Ord α] [TransOrd α] [LawfulEqOrd α] (set : ExtTreeSet α) :
    ExtTreeSet.ofList set.toList = set := by
  refine ExtTreeSet.ext_mem fun a => ?_
  rw [ExtTreeSet.mem_ofList, List.contains_iff_mem, ExtTreeSet.mem_toList]

variable [Wire α]

/-- What a lawful form prints stands for the value that was printed. -/
theorem parse?_print [LawfulWire α] (a : α) : parse? (print a) = some a := by
  calc
    parse? (print a) = (Json.parse? (toJson a).print).bind ofJson? := rfl
    _ = ofJson? (toJson a) := by rw [Json.parse?_print (isSpelled_toJson a), Option.bind_some]
    _ = some a := ofJson?_toJson a

instance : LawfulWire Bool where
  isSpelled_toJson _ := rfl
  ofJson?_toJson _ := rfl

instance : LawfulWire String where
  isSpelled_toJson _ := rfl
  ofJson?_toJson _ := rfl

instance : LawfulWire UInt64 where
  isSpelled_toJson _ := rfl
  ofJson?_toJson := Text.word?_toNat

theorem isSpelled_array {items : List Json} (h : ∀ item ∈ items, item.isSpelled) :
    (Json.array items).isSpelled := by
  rw [isSpelled]
  induction items with
  | nil => rfl
  | cons item items ih =>
    rw [List.forall_mem_cons] at h
    rw [isSpelled.spelledItems, h.1, ih h.2]
    rfl

instance [LawfulWire α] : LawfulWire (List α) where
  isSpelled_toJson items := by
    refine isSpelled_array fun item hitem => ?_
    obtain ⟨a, -, rfl⟩ := List.mem_map.mp hitem
    exact isSpelled_toJson a
  ofJson?_toJson items := by
    change (items.map toJson).mapM ofJson? = some items
    induction items with
    | nil => rfl
    | cons a items ih => simp [ofJson?_toJson, ih]

instance [LawfulWire α] [DecidableEq α] [Ord α] [TransOrd α] [LawfulEqOrd α] : LawfulWire (ExtTreeSet α) where
  isSpelled_toJson set := isSpelled_toJson set.toList
  ofJson?_toJson set := by
    change (ofJson? (toJson set.toList)).map _ = _
    rw [ofJson?_toJson, Option.map_some, ofList_toList]

end Wire

namespace Json

/-! ### Records -/

/-- The members that fields are written as. -/
abbrev asMembers (fields : List (String × Json)) : List (Text × Json) :=
  fields.map fun field => (some field.1, field.2)

theorem isSpelled_ofFields {fields : List (String × Json)}
    (h : ∀ field ∈ fields, field.2.isSpelled) : (ofFields fields).isSpelled := by
  rw [ofFields, isSpelled]
  induction fields with
  | nil => rfl
  | cons field fields ih =>
    rw [List.forall_mem_cons] at h
    rw [List.map_cons, isSpelled.spelledMembers, h.1, ih h.2]
    rfl

theorem given_eq_nil {fields : List (String × Json)} {name : String}
    (h : name ∉ fields.map (·.1)) : given name (asMembers fields) = [] := by
  rw [given, List.map_eq_nil_iff, List.filter_eq_nil_iff]
  rintro member hmember
  obtain ⟨field, hfield, rfl⟩ := List.mem_map.mp hmember
  rw [decide_eq_true_eq, Option.some.injEq]
  rintro rfl
  exact h (List.mem_map_of_mem hfield)

/-- A field is found among the fields that were written. -/
theorem field?_ofFields {fields : List (String × Json)} (hnodup : (fields.map (·.1)).Nodup)
    {name : String} {value : Json} (hfield : (name, value) ∈ fields) :
    field? (asMembers fields) name = some (some value) := by
  have hgiven : given name (asMembers fields) = [value] := by
    induction fields with
    | nil => cases hfield
    | cons field fields ih =>
      rw [List.map_cons, List.nodup_cons] at hnodup
      obtain rfl | hfield := List.mem_cons.mp hfield
      · have hnil := given_eq_nil hnodup.1
        unfold given at hnil ⊢
        simp [hnil]
      · have hne : field.1 ≠ name := by
          rintro rfl
          exact hnodup.1 (List.mem_map.mpr ⟨_, hfield, rfl⟩)
        have hrest := ih hnodup.2 hfield
        unfold given at hrest ⊢
        simp [hne, hrest]
  rw [field?, hgiven]

theorem all_isSome_ofFields (fields : List (String × Json)) :
    (asMembers fields).all (·.1.isSome) := by
  rw [List.all_map]
  exact List.all_eq_true.mpr fun _ _ => rfl

theorem mapM_fst {find? : String → Option (Option Json)} {fields : List (String × Json)}
    (h : ∀ field ∈ fields, find? field.1 = some (some field.2)) :
    (fields.map (·.1)).mapM find? = some (fields.map fun field => some field.2) := by
  induction fields with
  | nil => rfl
  | cons field fields ih =>
    rw [List.forall_mem_cons] at h
    simp [h.1, ih h.2]

/-- A record finds the fields that were written for it. -/
theorem record?_ofFields {fields : List (String × Json)} {names : List String}
    (hnames : fields.map (·.1) = names) (hnodup : names.Nodup) (short : Bool) :
    record? short names (ofFields fields) = some (fields.map fun field => some field.2) := by
  subst hnames
  rw [ofFields, record?, if_pos (all_isSome_ofFields _)]
  exact mapM_fst fun field hfield => field?_ofFields hnodup hfield

theorem required?_toJson {α : Type} [Wire α] [LawfulWire α] (a : α) :
    required? (some (Wire.toJson a)) = some a :=
  Wire.ofJson?_toJson a

theorem defaulted?_toJson {α : Type} [Wire α] [LawfulWire α] (default a : α) :
    defaulted? default (some (Wire.toJson a)) = some a :=
  Wire.ofJson?_toJson a

/-! ### Choices -/

theorem tagged?_bare {tag content : String} (hne : tag ≠ content) (name : String) :
    tagged? tag content (ofFields [(tag, ofString name)]) = some ⟨name, none, false⟩ := by
  simp [tagged?, ofFields, ofString, field?, given, hne, name?]

theorem tagged?_payload {tag content : String} (hne : tag ≠ content) (name : String)
    (payload : Json) :
    tagged? tag content (ofFields [(tag, ofString name), (content, payload)]) =
      some ⟨name, some payload, false⟩ := by
  simp [tagged?, ofFields, ofString, field?, given, hne, hne.symm, name?]

end Json

end TraceArbiter
