/-!
# Facility errors

What can go wrong with a control file, or with a helper that stands in for one.
-/

namespace TraceArbiter

inductive FacilityError where
  | writeFailed (path reason : String)
  | readFailed (path reason : String)
  | unsupported (operation : String)
  | notMounted
  deriving DecidableEq, Inhabited

def FacilityError.message : FacilityError → String
  | .writeFailed path reason => "Failed to write " ++ path ++ ": " ++ reason
  | .readFailed path reason => "Failed to read " ++ path ++ ": " ++ reason
  | .unsupported operation => "Operation not supported by this facility: " ++ operation
  | .notMounted => "tracefs is not mounted"

end TraceArbiter
