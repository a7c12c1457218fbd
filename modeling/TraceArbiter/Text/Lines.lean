/-!
# Lines of a text

A line ends at a newline, and a carriage return directly before that newline belongs to the line
ending. Text after the last newline is a line of its own when there is any; it has no ending, so a
carriage return there stays.
-/

namespace TraceArbiter.Text

/-- Drops one carriage return from the end. -/
def dropReturn (line : List Char) : List Char :=
  if line.getLast? = some '\r' then line.dropLast else line

def lines (s : String) : List String :=
  let pieces := s.toList.splitOn '\n'
  let last := pieces.getLastD []
  (pieces.dropLast.map dropReturn ++ if last.isEmpty then [] else [last]).map String.ofList

end TraceArbiter.Text
