import TraceArbiter.Proofs.Arbiter.Parts
import TraceArbiter.Proofs.Facility.Writes

/-!
# Steps that only write files

Whatever a step does to the control files, only two parts of the operations do anything else to the
facility: joining annotations and shrinking them. All the others leave what is made to fail, who holds
the annotations and which of them are running as they find it.
-/

namespace TraceArbiter

open Std

namespace Simulation

/-- What there is to a facility besides its files and the log of what was written to them. -/
def withoutFiles (s : Simulation) : Simulation :=
  { s with files := ∅, log := [] }

theorem withoutFiles_stored {s s' : Simulation} {path value : String}
    (h : s.stored path value = .ok s') : s'.withoutFiles = s.withoutFiles := by
  unfold stored at h
  split at h
  · cases h
    rfl
  split at h
  · dsimp only at h
    split at h <;> cases h
    rfl
  · cases h
    rfl

theorem withoutFiles_write (s : Simulation) (path value : String) :
    ((Facility.write path value : Access Simulation Unit).run.run s).2.withoutFiles =
      s.withoutFiles := by
  rw [s.write_run_stored]
  split
  · rfl
  split
  · next s' hstored =>
    change s'.withoutFiles = s.withoutFiles
    exact withoutFiles_stored hstored
  · rfl

theorem withoutFiles_append (s : Simulation) (path value : String) :
    ((Facility.append path value : Access Simulation Unit).run.run s).2.withoutFiles =
      s.withoutFiles := by
  rw [s.append_run]
  split <;> rfl

end Simulation

namespace Arbiter

/-- Of the facility, the files have changed at most. -/
def SameButFiles (a a' : Arbiter Simulation) : Prop :=
  a'.facility.withoutFiles = a.facility.withoutFiles

instance : Std.Refl SameButFiles :=
  ⟨fun _ => rfl⟩

instance : IsTrans (Arbiter Simulation) SameButFiles :=
  ⟨fun _ _ _ h h' => h'.trans h⟩

theorem SameButFiles.allows {P : String → Prop} {view : Installed → Installed} :
    Allows SameButFiles P view where
  write path value _ _ := fun a => a.facility.withoutFiles_write path value
  append path value _ := fun a => a.facility.withoutFiles_append path value
  note _ _ := fun _ => rfl

end Arbiter

end TraceArbiter
