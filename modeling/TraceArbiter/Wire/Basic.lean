import Std.Data.ExtTreeSet
import TraceArbiter.Json.Parser
import TraceArbiter.Json.Printer

/-!
# Wire forms

Requests, settings, sessions and reports travel as JSON. Each type has one form that is written,
and may have more that are read:

* a record is written as an object with its fields in declared order, and read from an object in
  any order, or from an array of its fields in declared order. Members with other keys are passed
  over; a field given twice is refused;
* a set is written in order, and read from an array in any order, repetitions allowed;
* a choice without a payload is written as its name, and read from the name or from an object that
  gives `null` under it.

`null` stands for a value only where the value is optional.
-/

namespace TraceArbiter

open Std

/-- Types with a JSON form. -/
class Wire (α : Type) where
  toJson : α → Json
  ofJson? : Json → Option α

namespace Wire

variable {α : Type}

/-- The compact JSON text of a value. -/
def print [Wire α] (a : α) : String :=
  (toJson a).print

/-- The value that a JSON text stands for. -/
def parse? [Wire α] (text : String) : Option α :=
  (Json.parse? text).bind ofJson?

instance : Wire Bool where
  toJson := .bool
  ofJson?
    | .bool value => some value
    | _ => none

instance : Wire String where
  toJson := .ofString
  ofJson?
    | .string text => text
    | _ => none

/-- Words are spelled with digits alone, and are below `2 ^ 64`. -/
instance : Wire UInt64 where
  toJson n := .ofNat n.toNat
  ofJson?
    | .number n => n.natural?.bind Text.word?
    | _ => none

instance [Wire α] : Wire (List α) where
  toJson items := .array (items.map toJson)
  ofJson?
    | .array items => items.mapM ofJson?
    | _ => none

instance [Wire α] : Wire (Option α) where
  toJson
    | some a => toJson a
    | none => .null
  ofJson?
    | .null => some none
    | value => (ofJson? value).map some

instance [Wire α] [Ord α] [TransOrd α] : Wire (ExtTreeSet α) where
  toJson set := toJson set.toList
  ofJson? value := (ofJson? value : Option (List α)).map (ExtTreeSet.ofList ·)

end Wire

namespace Json

/-! ### Records -/

/-- The values given for one field by the members of an object. -/
def given (name : String) (members : List (Text × Json)) : List Json :=
  (members.filter fun member => member.1 = some name).map (·.2)

/-- The value of a field that is given at most once. -/
def field? (members : List (Text × Json)) (name : String) : Option (Option Json) :=
  match given name members with
  | [] => some none
  | [value] => some (some value)
  | _ => none

/-- What a record's JSON form gives for each of its fields, in declared order. An array may leave
out fields at the end only if `short` allows it. -/
def record? (short : Bool) (names : List String) : Json → Option (List (Option Json))
  | .object members =>
    if members.all (·.1.isSome) then names.mapM (field? members) else none
  | .array items =>
    if items.length = names.length || (short && items.length < names.length) then
      some (items.map some ++ List.replicate (names.length - items.length) none)
    else none
  | _ => none

/-- The value of a field that has to be given. -/
def required? {α : Type} [Wire α] (value : Option Json) : Option α :=
  value.bind Wire.ofJson?

/-- The value of a field that stands for `default` when it is not given. -/
def defaulted? {α : Type} [Wire α] (default : α) : Option Json → Option α
  | none => some default
  | some value => Wire.ofJson? value

/-! ### Choices -/

/-- The name of a choice that carries nothing. -/
def name? : Json → Option String
  | .string text => text
  | .object [(key, .null)] => key
  | _ => none

/-- A choice whose name stands under `tag` and whose payload stands under `content`. -/
structure Tagged where
  name : String
  content : Option Json
  /-- Whether the payload was met before the name, so that it had to be stored. -/
  stored : Bool

/-- Reads a choice from an object, where other members are passed over, or from an array of its
name and its payload, where only the name itself will do. -/
def tagged? (tag content : String) : Json → Option Tagged
  | .object members =>
    if members.all (·.1.isSome) then
      match field? members tag, field? members content with
      | some (some name), some payload =>
        name.name?.map fun name =>
          let keys := members.map (·.1)
          ⟨name, payload, keys.idxOf (some content) < keys.idxOf (some tag)⟩
      | _, _ => none
    else none
  | .array [name, payload] => (Wire.ofJson? name).map fun name => ⟨name, some payload, false⟩
  | _ => none

/-- Whether the payload is one that a choice without payload may have. -/
def Tagged.isBare (t : Tagged) : Bool :=
  match t.content with
  | none | some .null => true
  | _ => false

end Json

end TraceArbiter
