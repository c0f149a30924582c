import SchemaWrappers.Log.Record
import SchemaWrappers.Path

namespace SchemaWrappers.Log

/-- The levels from which records count at all and appear on the console, and the file that takes
them. -/
structure Sinks where
  threshold : Level
  console : Level
  file : Option Path := none

/-- The console level. More detail wins over less. -/
def consoleLevel (verbose quiet : Bool) : Level :=
  if verbose then .debug else if quiet then .warning else .info

namespace Sinks

/-- The sinks before any file is opened; if one will be, all records count. -/
def ofFlags (verbose quiet toFile : Bool) : Sinks where
  threshold := if toFile then .debug else consoleLevel verbose quiet
  console := consoleLevel verbose quiet

def onConsole (s : Sinks) (r : Record) : Bool :=
  r.level.reaches s.threshold && r.level.reaches s.console

def inFile (s : Sinks) (r : Record) : Bool :=
  r.level.reaches s.threshold && r.level.reaches .debug

end Sinks

namespace Record

def consoleLine (r : Record) : String := s!"[{r.shortChannel}] {r.level.name} {r.message}\n"

def fileLine (stamp : String) (r : Record) : String :=
  s!"{stamp} {r.level.name} {r.channel}: {r.message}\n"

end Record
end SchemaWrappers.Log
