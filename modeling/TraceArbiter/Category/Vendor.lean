import Std.Data.ExtTreeMap
import TraceArbiter.Event.Name
import TraceArbiter.Text.Blank
import TraceArbiter.Text.Lines

/-!
# Vendor categories

A vendor lists categories of its own in a text file. A line that does not start with a blank names a
category; the indented lines below it are its events, written `group/name`. Blank lines and lines
whose first character after the indentation is `#` are comments. A category that is named again goes
on where it stopped, and an indented line without a category or without both halves of a name is
passed over.
-/

namespace TraceArbiter

open Std

structure VendorCategories where
  events : ExtTreeMap String (List EventName) := ∅
  deriving DecidableEq

namespace VendorCategories

/-- Adds events to a category, which is there afterwards even if there are none. -/
def extend (v : VendorCategories) (category : String) (events : List EventName) :
    VendorCategories :=
  ⟨v.events.insert category (v.events.getD category [] ++ events)⟩

def ofList (entries : List (String × List EventName)) : VendorCategories :=
  entries.foldl (fun v entry => v.extend entry.1 entry.2) {}

def eventsOf (v : VendorCategories) (category : String) : List EventName :=
  v.events.getD category []

/-- The categories in order, each with its events. -/
def toList (v : VendorCategories) : List (String × List EventName) :=
  v.events.toList

def isEmpty (v : VendorCategories) : Bool :=
  v.events.isEmpty

/-! ### The listing -/

/-- What a line of the listing says. -/
inductive Line where
  | comment
  | category (name : String)
  | event (name : EventName)
  | malformed

/-- An event line has a group before its first slash and a name behind it. -/
def Line.ofEntry (entry : String) : Line :=
  match entry.toList.span (· ≠ '/') with
  | (g :: group, _ :: n :: name) =>
    .event ⟨String.ofList (g :: group), String.ofList (n :: name)⟩
  | _ => .malformed

def Line.parse (line : String) : Line :=
  let entry := Text.trim line
  if entry.isEmpty || entry.toList.head? = some '#' then .comment
  else if line.toList.head?.any Text.isBlank then .ofEntry entry
  else .category entry

/-- Reads a line, given the category that is open. -/
def readLine : Option String × VendorCategories → Line → Option String × VendorCategories
  | (_, v), .category name => (some name, v.extend name [])
  | (some category, v), .event name => (some category, v.extend category [name])
  | state, _ => state

def parse (text : String) : VendorCategories :=
  (((Text.lines text).map Line.parse).foldl readLine (none, {})).2

/-- The categories of a listing that may be missing or may not be text; either way there are none. -/
def load (text? : Option String) : VendorCategories :=
  (text?.map parse).getD {}

end VendorCategories

end TraceArbiter
