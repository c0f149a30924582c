import SchemaWrappers.Log.Channels
import SchemaWrappers.World

/-! All that is done with the log of a process: the sinks are set up, once or more often, and records
are made on channels of any name. -/
namespace SchemaWrappers

structure Journal where
  world : World
  channels : Log.Channels := {}

namespace Journal

/-- The sinks are set up by flags and perhaps with a file, or a record is made on the channel of a
part at some time. -/
inductive Entry where
  | configure (verbose quiet : Bool) (file : Option Path)
  | log (stamp : String) (part : Option String) (level : Log.Level) (message : String)

/-- The level from which records count, and are said, where no sinks take them. -/
def bareLevel : Log.Level := .warning

/-- What was found of levels is forgotten when the threshold is set. -/
def configure (j : Journal) (verbose quiet : Bool) (file : Option Path) : Except Failure Unit × Journal :=
  let (x, world) := (Run.configureLog verbose quiet file).run j.world
  (x, ⟨world, { j.channels.take Log.root with found := [] }⟩)

/-- A record goes to the sinks if there are any and its channel leads to the program's own. Else its
message is said by itself if it is weighty enough. -/
def log (j : Journal) (stamp : String) (r : Log.Record) : Journal :=
  let world := { j.world with stamp }
  let channels := j.channels.take r.channel
  match if Log.leadsHome channels.opened r.channel.toList then world.sinks else none with
  | some sinks =>
    let (counts, channels) := channels.counts r.channel r.level sinks.threshold
    ⟨if counts then world.record r else world, channels⟩
  | none =>
    let (counts, channels) := channels.counts r.channel r.level bareLevel
    ⟨if counts && r.level.reaches bareLevel then world.complain (r.message ++ "\n") else world, channels⟩

def take (j : Journal) : Entry → Except Failure Unit × Journal
  | .configure verbose quiet file => j.configure verbose quiet file
  | .log stamp part level message => (.ok (), j.log stamp ⟨level, Log.channel part, message⟩)

/-- The journal after some entries. One that fails does not keep others from being made. -/
def run (j : Journal) (es : List Entry) : Journal := es.foldl (fun j e => (j.take e).2) j

end Journal
end SchemaWrappers
