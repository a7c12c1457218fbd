import TraceArbiter.Proofs.Wire.Basic
import TraceArbiter.Wire.Report
import TraceArbiter.Wire.Session

/-!
# Reading back what travels

Requests, settings, sessions and reports, and all that is part of them, have lawful forms. The two
kinds of error name themselves under the same key. A failure that wraps a facility error keeps it
under a key of its own, so the names do not get in each other's way; and since the error is stored
as a whole before its name is looked for, its form has to be sound and must not sit too deep.
-/

namespace TraceArbiter

open Std Json Wire

/-! ### Events and syscalls -/

instance : LawfulWire EventName where
  isSpelled_toJson n := isSpelled_ofFields (by simp [isSpelled_toJson])
  ofJson?_toJson n := by
    unfold instWireEventName
    dsimp only
    rw [record?_ofFields]
    · simp [required?_toJson]
    · rfl
    · decide

instance : LawfulWire Event where
  isSpelled_toJson e := isSpelled_ofFields (by simp [isSpelled_toJson])
  ofJson?_toJson e := by
    unfold instWireEvent
    dsimp only
    rw [record?_ofFields]
    · simp [required?_toJson]
    · rfl
    · decide

instance : LawfulWire EventFilter where
  isSpelled_toJson f := isSpelled_ofFields (by simp [isSpelled_toJson])
  ofJson?_toJson f := by
    unfold instWireEventFilter
    dsimp only
    rw [record?_ofFields]
    · simp [required?_toJson]
    · rfl
    · decide

namespace SyscallFilter

theorem isSpelled_toJson (f : SyscallFilter) : f.toJson.isSpelled := by
  cases f with
  | none | all => rfl
  | explicit ids => exact isSpelled_ofFields (by simp [ofString, isSpelled, Wire.isSpelled_toJson])

instance : LawfulWire SyscallFilter where
  isSpelled_toJson := isSpelled_toJson
  ofJson?_toJson f := by
    change (tagged? "kind" "ids" f.toJson).bind ofTagged? = some f
    cases f with
    | none => rw [toJson, tagged?_bare (by decide)]; rfl
    | all => rw [toJson, tagged?_bare (by decide)]; rfl
    | explicit ids =>
      rw [toJson, tagged?_payload (by decide)]
      change (required? (some (Wire.toJson ids))).map explicit = some (explicit ids)
      rw [required?_toJson, Option.map_some]

end SyscallFilter

/-! ### Requests, settings and sessions -/

instance : LawfulWire CompactSched where
  isSpelled_toJson c := isSpelled_ofFields (by simp [isSpelled_toJson])
  ofJson?_toJson c := by
    unfold instWireCompactSched
    dsimp only
    rw [record?_ofFields]
    · simp [required?_toJson]
    · rfl
    · decide

instance : LawfulWire Request where
  isSpelled_toJson r := isSpelled_ofFields (by simp [Request.fieldNames, isSpelled_toJson])
  ofJson?_toJson r := by
    unfold Request.instWire
    dsimp only
    rw [record?_ofFields]
    · simp [Request.fieldNames, defaulted?_toJson]
    · rfl
    · decide

instance : LawfulWire Settings where
  isSpelled_toJson s := isSpelled_ofFields (by simp [Settings.fieldNames, isSpelled_toJson])
  ofJson?_toJson s := by
    unfold Settings.instWire
    dsimp only
    rw [record?_ofFields]
    · simp [Settings.fieldNames, defaulted?_toJson]
    · rfl
    · decide

instance : LawfulWire SessionConfig where
  isSpelled_toJson c := isSpelled_ofFields (by simp [SessionConfig.fieldNames, isSpelled_toJson])
  ofJson?_toJson c := by
    unfold SessionConfig.instWire
    dsimp only
    rw [record?_ofFields]
    · simp [SessionConfig.fieldNames, required?_toJson]
    · rfl
    · decide

/-! ### Errors -/

namespace FacilityError

theorem isSpelled_toJson (error : FacilityError) : error.toJson.isSpelled := by
  cases error <;> rfl

/-- The form of an error is sound, and nothing in it has parts. -/
theorem isStorable_toJson (error : FacilityError) {level : Nat} (hlevel : level < nestingLimit) :
    error.toJson.isStorable level := by
  have hsound : error.toJson.isSound := by cases error <;> rfl
  have hnesting : error.toJson.nesting = 1 := by cases error <;> rfl
  rw [isStorable, hsound, hnesting]
  exact decide_eq_true hlevel

/-- An error is read back from a store or straight from a text, where it is not nested too deep. -/
theorem ofJsonAt?_toJson (error : FacilityError) (stored : Bool) {level : Nat}
    (hlevel : level < nestingLimit) : ofJsonAt? level stored error.toJson = some error := by
  unfold ofJsonAt?
  rw [if_pos (isStorable_toJson error hlevel)]
  cases error with
  | writeFailed path reason => rfl
  | readFailed path reason => rfl
  | unsupported operation => rfl
  | notMounted => rfl

instance : LawfulWire FacilityError where
  isSpelled_toJson := isSpelled_toJson
  ofJson?_toJson error := ofJsonAt?_toJson error false (by decide)

end FacilityError

namespace SetupFailure

theorem isSpelled_toJson (f : SetupFailure) : f.toJson.isSpelled := by
  cases f with
  | facility error =>
    exact isSpelled_ofFields (by simp [ofString, isSpelled, error.isSpelled_toJson])
  | _ => rfl

/-- A failure is read back where there is room for the error it wraps. -/
theorem ofJsonAt?_toJson (f : SetupFailure) {level : Nat} (hlevel : level + 1 < nestingLimit) :
    ofJsonAt? level f.toJson = some f := by
  cases f with
  | facility error =>
    rw [ofJsonAt?, toJson, kind, tagged?_payload (by decide)]
    change (FacilityError.ofJsonAt? (level + 1) false error.toJson).map facility = _
    rw [error.ofJsonAt?_toJson false hlevel, Option.map_some]
  | tracerBusy tracer =>
    rw [ofJsonAt?, toJson, kind, tagged?_payload (by decide)]
    rfl
  | tracingInUse | tracingDisabledExternally | idsExhausted =>
    change (tagged? "error_type" "details" (ofFields [("error_type", ofString _)])).bind _ = _
    rw [tagged?_bare (by decide)]
    rfl

instance : LawfulWire SetupFailure where
  isSpelled_toJson := isSpelled_toJson
  ofJson?_toJson f := ofJsonAt?_toJson f (by decide)

end SetupFailure

/-! ### Reports -/

namespace SetupReport

theorem isSpelled_failure (failure : Option SetupFailure) : (Wire.toJson failure).isSpelled := by
  cases failure with
  | none => rfl
  | some f => exact f.isSpelled_toJson

theorem failureOf?_toJson (failure : Option SetupFailure) :
    failureOf? (some (Wire.toJson failure)) = some failure := by
  cases failure with
  | none => rfl
  | some f =>
    -- A failure is written as an object, so it is not taken for a missing one.
    change (SetupFailure.ofJsonAt? 1 f.toJson).map some = some (some f)
    rw [f.ofJsonAt?_toJson (by decide), Option.map_some]

instance : LawfulWire SetupReport where
  isSpelled_toJson r :=
    isSpelled_ofFields (by simp [fieldNames, Wire.isSpelled_toJson, isSpelled_failure])
  ofJson?_toJson r := by
    unfold instWire
    dsimp only
    rw [record?_ofFields]
    · simp [fieldNames, required?_toJson, failureOf?_toJson]
    · rfl
    · decide

end SetupReport

/-- Every value that travels is read back from its text as it was, whatever its strings, its numbers
and its sets are: requests, settings, session configurations and setup reports, and the filters,
names, events and errors in them. -/
theorem wireForms_readBack :
    (∀ r : Request, Wire.parse? (Wire.print r) = some r) ∧
      (∀ s : Settings, Wire.parse? (Wire.print s) = some s) ∧
      (∀ c : SessionConfig, Wire.parse? (Wire.print c) = some c) ∧
      (∀ r : SetupReport, Wire.parse? (Wire.print r) = some r) ∧
      (∀ f : SyscallFilter, Wire.parse? (Wire.print f) = some f) ∧
      (∀ f : EventFilter, Wire.parse? (Wire.print f) = some f) ∧
      (∀ n : EventName, Wire.parse? (Wire.print n) = some n) ∧
      (∀ e : Event, Wire.parse? (Wire.print e) = some e) ∧
      (∀ e : FacilityError, Wire.parse? (Wire.print e) = some e) ∧
      ∀ f : SetupFailure, Wire.parse? (Wire.print f) = some f :=
  ⟨parse?_print, parse?_print, parse?_print, parse?_print, parse?_print, parse?_print,
    parse?_print, parse?_print, parse?_print, parse?_print⟩

end TraceArbiter
