import SchemaWrappers.Proofs.Except
import SchemaWrappers.Proofs.Path
import SchemaWrappers.Proofs.Run
import SchemaWrappers.Settings

namespace SchemaWrappers.Settings
open Run

variable {p : Path} {w w' : World} {e : Failure}

def ofText (room : Nat) (file : Path) (text : String) : Except Failure Settings :=
  (fieldsOfText room file.name text).bind fun field => (ofFields file.parent field).mapError .setting

def ofRead (room : Nat) (file : Path) : Except ReadError String → Except Failure Settings
  | .error e => .error (.ofRead e)
  | .ok text => ofText room file text

theorem reads_locate (p : Path) : Reads (locate p) := by
  refine (Reads.expand p).bind fun q => (Reads.ask _ _).bind fun d => ?_
  cases d with
  | true => exact .resolve _
  | false => exact .resolve _

theorem answer_locate (p : Path) (w : World) : answer (locate p) w =
    (answer (expand p) w).bind fun q => ((w.tree.isDirectory w.place.here q).mapError .access).bind
      fun d => answer (resolve (if d then q.child fileName else q)) w := by
  rw [locate, (Reads.expand p).answer_bind]
  refine congrArg _ (funext fun q => ?_)
  rw [(Reads.ask _ _).answer_bind, answer_ask]
  refine congrArg _ (funext fun d => ?_)
  cases d with
  | true => rfl
  | false => rfl

theorem answer_load (p : Path) (w : World) : answer (load p) w =
    (answer (locate p) w).bind fun file => ((w.tree.look w.place.here file).mapError .access).bind
      fun found => match found with
        | none => .ok (defaults file.parent)
        | some _ => (answer (readText file) w).bind (ofRead w.place.limits.yaml file) := by
  rw [load, (reads_locate p).answer_bind]
  refine congrArg _ (funext fun file => ?_)
  dsimp only
  rw [(Reads.ask _ _).answer_bind, answer_ask]
  refine congrArg _ (funext fun found => ?_)
  cases found with
  | none => rfl
  | some entry =>
    dsimp only
    rw [(Reads.readText file).answer_bind]
    refine congrArg _ (funext fun read => ?_)
    cases read with
    | error e => rfl
    | ok text =>
      dsimp only [ofRead, ofText]
      rw [Reads.answer_place_bind]
      cases fieldsOfText w.place.limits.yaml file.name text with
      | error e => rfl
      | ok field =>
        dsimp only [Except.bind]
        cases ofFields file.parent field with
        | error e => rfl
        | ok s => rfl

theorem reads_load (p : Path) : Reads (load p) := by
  refine (reads_locate p).bind fun file => (Reads.ask _ _).bind fun found => ?_
  cases found with
  | none => exact .pure _
  | some entry =>
    refine (Reads.readText file).bind fun read => ?_
    cases read with
    | error e => exact .throw _
    | ok text =>
      refine Reads.place.bind fun place => ?_
      cases fieldsOfText place.limits.yaml file.name text with
      | error e => exact .throw _
      | ok field =>
        dsimp only
        cases ofFields file.parent field with
        | error e => exact .throw _
        | ok s => exact .pure s

section
variable {P : Location → Prop} (h : w.tree.ChangedOnly P w'.tree) (hplace : w'.place = w.place)
include h hplace

theorem answer_locate_changed : answer (locate p) w' = answer (locate p) w := by
  simp only [answer_locate, answer_expand, answer_resolve, hplace, FileTree.isDirectory_changed h]

theorem answer_load_changed (hp : ∀ file, answer (locate p) w = .ok file →
    ∀ l, w.tree.Names w.place.here file l → ¬ P l) :
    answer (load p) w' = answer (load p) w := by
  rw [answer_load, answer_load, answer_locate_changed h hplace]
  cases hf : answer (locate p) w with
  | error e => rfl
  | ok file =>
    dsimp only [Except.bind]
    rw [hplace, FileTree.look_changed h (hp file hf)]
    rcases hlook : w.tree.look w.place.here file with e | _ | entry
    · rfl
    · rfl
    · obtain ⟨l, hl⟩ := FileTree.names_of_look hlook
      dsimp only [Except.mapError]
      rw [answer_readText, answer_readText, hplace, FileTree.readText_changed h hl (hp file hf l hl)]

end

/-- The failures to load settings that are not reported, and what they come from: a home that is not
known, a NUL character in the path, a name that is too long, a directory in the place of the file, a
file that is no text, or a value that cannot be taken up. -/
inductive Unreported (p : Path) (w : World) : Failure → Prop where
  | homeless (h : p.expand w.place = none) : Unreported p w (.ofHomeless p)
  | nul {q : Path} (h : p.expand w.place = some q) (hq : q.hasNul = true) : Unreported p w .nul
  | unreachable {q : Path} {e : FileError} (h : p.expand w.place = some q)
      (hq : w.tree.look w.place.here q = .error e) : Unreported p w (.access e)
  | fileUnreachable {file : Path} {e : FileError} (h : answer (locate p) w = .ok file)
      (hf : w.tree.look w.place.here file = .error e) : Unreported p w (.access e)
  | directory {file : Path} (h : answer (locate p) w = .ok file)
      (hf : w.tree.look w.place.here file = .ok (some .directory)) :
      Unreported p w (.access ⟨.isDirectory, file.text⟩)
  | encoding {file : Path} {bytes : List UInt8} {e : Utf8.Error} (h : answer (locate p) w = .ok file)
      (hf : w.tree.look w.place.here file = .ok (some (.file bytes)))
      (hd : Utf8.decode bytes = .error e) : Unreported p w (.encoding e)
  | value {file : Path} {bytes : List UInt8} {cs : List Char} {e : Yaml.Error}
      (h : answer (locate p) w = .ok file)
      (hf : w.tree.look w.place.here file = .ok (some (.file bytes)))
      (hd : Utf8.decode bytes = .ok cs)
      (hv : ofText w.place.limits.yaml file (String.ofList (FileTree.unifyLines cs)) = .error (.setting e)) :
      Unreported p w (.setting e)

theorem child_fileName (q : Path) : q.child fileName = { q with names := q.names ++ [fileName] } :=
  Path.child_of_name (by decide) q

/-- A directory cannot be named with a NUL character, nor can the settings file in it. -/
theorem hasNul_child (q : Path) : (q.child fileName).hasNul = q.hasNul := by
  rw [child_fileName, Path.hasNul, List.any_append, Path.hasNul]
  have hlast : ([fileName].any fun n => n.toList.contains '\x00') = false := by decide
  rw [hlast, Bool.or_false]

theorem answer_load_of_look {file : Path} {entry : Entry} (hfile : answer (locate p) w = .ok file)
    (h : w.tree.look w.place.here file = .ok (some entry)) :
    answer (load p) w = ofRead w.place.limits.yaml file (w.tree.readText w.place.here file) := by
  rw [answer_load, hfile]
  dsimp only [Except.bind]
  rw [h]
  dsimp only [Except.mapError]
  rw [answer_readText_of_look h]

end SchemaWrappers.Settings
