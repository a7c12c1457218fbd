import TraceArbiter.Json.Range

/-!
# Storing values

Some values have to be taken in as a whole before it is known what they are. Such a value must be
sound throughout: its strings text, its numbers in range, and its containers not nested too deeply.
Values that nobody asks for are passed over, and may be anything that the grammar allows.
-/

namespace TraceArbiter.Json

/-- The number of containers around the most deeply nested value. -/
def nesting : Json → Nat
  | .array items => 1 + nestingItems items
  | .object members => 1 + nestingMembers members
  | _ => 0
where
  nestingItems : List Json → Nat
    | [] => 0
    | item :: items => max item.nesting (nestingItems items)
  nestingMembers : List (Text × Json) → Nat
    | [] => 0
    | (_, value) :: members => max value.nesting (nestingMembers members)

/-- Whether every string in it is text and every number in it is finite. -/
def isSound : Json → Bool
  | .number n => n.isFinite
  | .string text => text.isSome
  | .array items => soundItems items
  | .object members => soundMembers members
  | _ => true
where
  soundItems : List Json → Bool
    | [] => true
    | item :: items => item.isSound && soundItems items
  soundMembers : List (Text × Json) → Bool
    | [] => true
    | (key, value) :: members => key.isSome && value.isSound && soundMembers members

/-- Values that are taken in as a whole may not sit inside more containers than this. -/
def nestingLimit : Nat :=
  127

/-- Whether the value can be taken in as a whole where `level` containers surround it. -/
def isStorable (level : Nat) (value : Json) : Bool :=
  value.isSound && level + value.nesting ≤ nestingLimit

end TraceArbiter.Json
