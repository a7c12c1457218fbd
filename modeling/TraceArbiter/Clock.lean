import Std.Data.ExtTreeSet
import TraceArbiter.Text.Blank

/-!
# Trace clocks

The kernel lists the clocks it has as words on one line and puts the selected one in brackets, as in
`local [global] counter mono_raw boot`. Selecting another clock moves the brackets.
-/

namespace TraceArbiter

open Std

/-- The clock that records are stamped with. -/
inductive Clock where
  | boot
  | global
  | local
  | monoRaw
  | unknown
  deriving DecidableEq, Inhabited

namespace Clock

def monoRawName : String :=
  "mono_raw"

def ofName (name : String) : Clock :=
  if name = "boot" then .boot
  else if name = "global" then .global
  else if name = "local" then .local
  else if name = monoRawName then .monoRaw
  else .unknown

def name : Clock → String
  | .boot => "boot"
  | .global => "global"
  | .local => "local"
  | .monoRaw => monoRawName
  | .unknown => "unknown"

/-- What stands between the brackets of a bracketed word. -/
def bracketed? (word : String) : Option String :=
  match word.toList with
  | '[' :: rest => if rest.getLast? = some ']' then some (String.ofList rest.dropLast) else none
  | _ => none

/-- The clock that a word of a listing names. -/
def listed (word : String) : String :=
  (bracketed? word).getD word

/-- The selected clock of a listing. Of several, the last one counts. -/
def selected? (listing : String) : Option String :=
  ((Text.words listing).filterMap bracketed?).getLast?

/-- The clocks of a listing, the selected one among them. -/
def available (listing : String) : ExtTreeSet String :=
  ExtTreeSet.ofList ((Text.words listing).map listed)

def dropBrackets (word : String) : String :=
  String.ofList (((word.toList.dropWhile (· = '[')).reverse.dropWhile (· = ']')).reverse)

/-- The listing with the brackets moved to the clocks of the given name. -/
def select (clock listing : String) : String :=
  " ".intercalate <| (Text.words listing).map fun word =>
    let name := dropBrackets word
    if name = clock then "[" ++ name ++ "]" else name

/-- The clock to run on: the raw monotonic one when it is wanted and there, otherwise the first of
the preferred ones that is there. -/
def choose (available : ExtTreeSet String) (priority : List String) (wantMonoRaw : Bool) :
    Option String :=
  if wantMonoRaw && available.contains monoRawName then some monoRawName
  else priority.find? available.contains

end Clock

end TraceArbiter
