import TraceArbiter.Text.Blank
import TraceArbiter.Text.Numeral

/-!
# Settings

How large the buffer of each processor may be, and which clocks are preferred. The environment may
override the sizes.
-/

namespace TraceArbiter

structure Settings where
  pageSizeKb : UInt64 := 4
  defaultBufferKb : UInt64 := 2048
  maxBufferPages : UInt64 := 8192
  clockPriority : List String := ["boot", "global", "local"]
  deriving DecidableEq, Inhabited

namespace Settings

/-- The number that a variable sets: blanks around it are ignored, and so is the whole variable
unless it spells a positive number. -/
def positive? (raw : String) : Option UInt64 :=
  (Text.readDecimal (Text.trim raw)).filter (0 < ·)

/-- The defaults, with the sizes that the environment sets. -/
def ofEnvironment (env : String → Option String) : Settings :=
  let size? (name : String) : Option UInt64 := (env name).bind positive?
  let base : Settings := {}
  { base with
    pageSizeKb := (size? "TRACEMUX_PAGE_SIZE_KB").getD base.pageSizeKb
    defaultBufferKb := (size? "TRACEMUX_DEFAULT_BUFFER_KB").getD base.defaultBufferKb
    maxBufferPages := (size? "TRACEMUX_MAX_BUFFER_PAGES").getD base.maxBufferPages }

/-- The least number of pages that holds the given size. -/
def pagesCovering (kb pageKb : UInt64) : UInt64 :=
  if kb % pageKb = 0 then kb / pageKb else kb / pageKb + 1

/-- The number of pages for a requested size, where 0 asks for the default size. There is at least
one page and at most the allowed number, and a page or a limit of size 0 counts as 1. -/
def bufferPages (s : Settings) (requestedKb : UInt64) : UInt64 :=
  let kb := if requestedKb = 0 then s.defaultBufferKb else requestedKb
  max 1 (min (pagesCovering kb (max s.pageSizeKb 1)) (max s.maxBufferPages 1))

end Settings

end TraceArbiter
