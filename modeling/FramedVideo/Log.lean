/-!
# Log lines

What the two ends report while they run. A line has a level, a message and named values, each as
text. A reader chooses a level and sees the lines of that level and of the more severe ones.

## Main definitions

- `Log.Level` — how severe a line is
- `Log.Line` — one report
- `Log.upTo` — the lines that a reader of a given level sees
- `Log.isDue` — when a periodic report is made
-/

namespace FramedVideo.Log

/-- How severe a line is, the most severe first. -/
inductive Level where
  | error
  | warn
  | info
  | debug
  | trace
  deriving DecidableEq, Repr

namespace Level

/-- The name of a level. -/
def name : Level → String
  | error => "ERROR"
  | warn => "WARN"
  | info => "INFO"
  | debug => "DEBUG"
  | trace => "TRACE"

/-- The level of a given name. -/
def ofName? (name : String) : Option Level :=
  [error, warn, info, debug, trace].find? (·.name = name)

/-- The rank of a level; a more severe one has a lower rank. -/
def rank : Level → Nat
  | error => 0
  | warn => 1
  | info => 2
  | debug => 3
  | trace => 4

end Level

/-- One report. -/
structure Line where
  level : Level
  message : String
  /-- Named values. -/
  fields : List (String × String) := []
  deriving DecidableEq, Repr

/-- A report as one line of text. -/
def Line.describe (line : Line) : String :=
  " ".intercalate
    (line.level.name :: line.message :: line.fields.map fun field => field.1 ++ "=" ++ field.2)

/-- The lines that a reader of a given level sees. -/
def upTo (level : Level) (lines : List Line) : List Line :=
  lines.filter fun line => line.level.rank ≤ level.rank

/-- A periodic report is due when `count` is a positive multiple of `every`; never if `every` is
zero. -/
def isDue (every count : Nat) : Bool := 0 < every && 0 < count && count % every = 0

end FramedVideo.Log
