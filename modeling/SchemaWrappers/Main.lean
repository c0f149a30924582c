import SchemaWrappers.CommandLine.Reach

/-! The program: it sees what a call may look at, makes the call, and stores what has changed. -/
namespace SchemaWrappers.Main

/-- What is at a place whose directory is known to be one. -/
def entryAt (l : Location) : IO (Option Entry) := do
  try
    let bytes ← IO.FS.readBinFile ("/" ++ "/".intercalate l)
    return some (.file bytes.toList)
  catch e =>
    match e with
    | .noFileOrDirectory .. => return none
    | .inappropriateType .. => return some .directory
    | e => throw e

def see (t : FileTree) (l : Location) : IO FileTree :=
  (List.range l.length).foldlM (fun t n => do
    let l := l.take (n + 1)
    match t.get? l, t.get? l.dropLast with
    | none, some .directory =>
      match ← entryAt l with
      | some e => return t.put l e
      | none => return t
    | _, _ => return t) t

/-- Sees more paths as files become known: first the settings, then what they name, then what the
template includes. -/
def look (r : CommandLine.Request) (w : World) : Nat → IO World
  | 0 => return w
  | n + 1 => do
    let tree ← (CommandLine.reach r w).foldlM (fun t p => see t p.names) w.tree
    look r { w with tree } n

/-- Stores the files that have changed. -/
def store (before after : FileTree) : IO Unit :=
  after.entries.forM fun (l, e) =>
    match e with
    | .file bytes => do
      if before.get? l != some e then
        IO.FS.writeBinFile ("/" ++ "/".intercalate l) ⟨bytes.toArray⟩
    | .directory => return ()

def users : IO (List (String × Path)) := do
  let lines ← try IO.FS.lines "/etc/passwd" catch _ => pure #[]
  return lines.toList.filterMap fun line =>
    match line.splitOn ":" with
    | name :: _ :: _ :: _ :: _ :: home :: _ => some (name, Path.ofText home)
    | _ => none

/-- The surroundings. The clock is not read: records in files bear the time at which counting
starts. -/
def surroundings : IO World := do
  let here := Path.ofText ((← IO.getEnv "PWD").getD "/")
  let home := Path.ofText ((← IO.getEnv "HOME").getD "/")
  let tree ← see {} here.names
  let seed ← IO.getRandomBytes 8
  return { place := { here, home, users := ← users }, tree, stamp := "1970-01-01 00:00:00,000"
           chance := fun n => (hash (seed, n)).toNat }

def run (args : List String) : IO UInt32 := do
  let w ← surroundings
  let w ← match CommandLine.Request.ofArgs args with
    | .ok r => look r w 6
    | .error _ => pure w
  let (ending, after) := CommandLine.call args w
  store w.tree after.tree
  IO.print after.printed
  IO.eprint after.console
  match ending with
  | .exit code => return code.toUInt32
  | .broken e =>
    IO.eprintln e.message
    return 1

end SchemaWrappers.Main

def main (args : List String) : IO UInt32 := SchemaWrappers.Main.run args
