import SchemaWrappers.Analysis
import SchemaWrappers.CommandLine.Help

namespace SchemaWrappers.CommandLine

/-- How a call ends: with an exit code, or broken off by a failure that is not reported. -/
inductive Ending where
  | exit (code : Nat)
  | broken (e : Failure)
  deriving DecidableEq, Repr

def channel : String := "cli"

/-- Makes the module from files that are loaded by a reader, and answers where it was written. -/
def generate (reader : Program.Reader) (r : Request) : Run Path := do
  let settings ← Settings.load (Path.ofText r.config)
  Run.report (Log.info channel "Initializing the program generator...")
  let a ← Analysis.ofSettingsWith reader settings
  Run.report (Log.debug channel s!"{a.builders.length} builder classes found.")
  Run.report (Log.debug channel s!"{a.methods.length} methods found.")
  Run.report (Log.info channel "Creating builder file...")
  a.write (r.output.map Path.ofText)

def seenFrom (here p : Path) : String :=
  match (p.resolve here).below? here with
  | some q => q.text
  | none => p.text

def writtenLine (here p : Path) : String := s!"Builder module written to {seenFrom here p}\n"

def failedLine (e : Failure) : String := s!"buildergen generate failed: {e.message}\n"

def ended (e : Failure) (w : World) : Ending × World :=
  if e.isReported then (.exit 1, w.complain (failedLine e)) else (.broken e, w)

/-- Sets up where records go. -/
def opening (r : Request) : Run Unit :=
  Run.configureLog r.verbose r.quiet (r.logFile.map Path.ofText)

def perform (reader : Program.Reader) (r : Request) (w : World) : Ending × World :=
  match (opening r).run w with
  | (.error e, w) => (.broken e, w)
  | (.ok (), w) =>
    match (generate reader r).run w with
    | (.ok p, w) => (.exit 0, w.print (writtenLine w.place.here p))
    | (.error e, w) => ended e w

def callWith (reader : Program.Reader) (args : List String) (w : World) : Ending × World :=
  match Request.ofArgs args with
  | .ok r => perform reader r w
  | .error (.help l) => (.exit 0, w.print l.helpText)
  | .error (.usage l c) => (.exit 2, w.complain (l.complaintText c))

def call (args : List String) (w : World) : Ending × World := callWith Syntax.read args w

end SchemaWrappers.CommandLine
