/-! Log records: what is reported, how weighty it is, and which part of the program reports it. -/
namespace SchemaWrappers.Log

/-- A level, by the weight that it is compared by. -/
structure Level where
  weight : Int
  deriving DecidableEq, Repr

namespace Level

def debug : Level := ⟨10⟩
def info : Level := ⟨20⟩
def warning : Level := ⟨30⟩
def error : Level := ⟨40⟩
def critical : Level := ⟨50⟩

def named : List (Level × String) :=
  [(⟨0⟩, "NOTSET"), (debug, "DEBUG"), (info, "INFO"), (warning, "WARNING"), (error, "ERROR"),
    (critical, "CRITICAL")]

def name (l : Level) : String := (named.lookup l).getD s!"Level {l.weight}"

def reaches (l threshold : Level) : Bool := threshold.weight ≤ l.weight

end Level

/-- The program's own channel, under which those of its parts lie. -/
def root : String := "buildergen"

/-- The full name of a part's channel; no name or an empty one means the program's own. -/
def channel (part : Option String) : String :=
  match part with
  | some p => if p.isEmpty then root else root ++ "." ++ p
  | none => root

/-- A report on the channel of that full name. -/
structure Record where
  level : Level
  channel : String
  message : String
  deriving DecidableEq, Repr

namespace Record

def shortChannel (r : Record) : String :=
  let lead := (root ++ ".").toList
  if lead.isPrefixOf r.channel.toList then String.ofList (r.channel.toList.drop lead.length)
  else r.channel

end Record

def debug (part message : String) : Record := ⟨.debug, channel (some part), message⟩
def info (part message : String) : Record := ⟨.info, channel (some part), message⟩
def warning (part message : String) : Record := ⟨.warning, channel (some part), message⟩

end SchemaWrappers.Log
