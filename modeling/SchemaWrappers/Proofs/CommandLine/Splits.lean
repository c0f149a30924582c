import Mathlib.Data.List.Basic
import Mathlib.Data.List.Induction
import SchemaWrappers.CommandLine.Request

/-! The flags for the log on both sides of the command: what they ask for depends on their order alone,
and not on where between them the command stands. -/
namespace SchemaWrappers.CommandLine

/-- A word that cannot be taken for a flag. -/
structure Word where
  text : String
  plain : text.toList.head? ≠ some '-'

/-- A flag for the log; its name may be the short one. -/
inductive LogFlag where
  | verbose (short : Bool)
  | quiet (short : Bool)
  | file (path : Word)

/-- A flag that may stand behind the command: one for the log, or one of the command's own. -/
inductive OwnFlag where
  | log (f : LogFlag)
  | config (path : Word)
  | output (path : Word)

namespace LogFlag

def isVerbose : LogFlag → Bool
  | verbose _ => true
  | _ => false

def isQuiet : LogFlag → Bool
  | quiet _ => true
  | _ => false

def path? : LogFlag → Option String
  | file path => some path.text
  | _ => none

end LogFlag

/-- The short name of a flag, if it is meant and there is one, else the long name. -/
def Flag.spelling (f : Flag) (short : Bool) : String :=
  (if short then f.spellings.head? else f.spellings.getLast?).getD ""

namespace OwnFlag

def log? : OwnFlag → Option LogFlag
  | log f => some f
  | _ => none

def config? : OwnFlag → Option String
  | config path => some path.text
  | _ => none

def output? : OwnFlag → Option String
  | output path => some path.text
  | _ => none

def flag : OwnFlag → Flag
  | log (.verbose _) => .verbose
  | log (.quiet _) => .quiet
  | log (.file _) => .logFile
  | config _ => .config
  | output _ => .output

def isShort : OwnFlag → Bool
  | log (.verbose short) | log (.quiet short) => short
  | _ => false

def value : OwnFlag → Option Word
  | log (.file path) | config path | output path => some path
  | _ => none

def spelling (f : OwnFlag) : String := f.flag.spelling f.isShort

def words (f : OwnFlag) : List String := f.spelling :: (f.value.map (·.text)).toList

def role (l : Level) (f : OwnFlag) : Role :=
  if f.flag ∈ l.flags then .flag f.flag (CommandLine.isShort f.spelling) none else .unknown

def roled (l : Level) (f : OwnFlag) : List (String × Role) :=
  (f.spelling, f.role l) :: (f.value.map fun w => (w.text, Role.plain)).toList

end OwnFlag

def Values.after (v : Values) : OwnFlag → Values
  | .log (.verbose _) => { v with verbose := some true }
  | .log (.quiet _) => { v with quiet := some true }
  | .log (.file path) => { v with logFile := some path.text }
  | .config path => { v with config := some path.text }
  | .output path => { v with output := some path.text }

section
variable {l : Level} {f : OwnFlag} {fs : List OwnFlag} {rest : List (String × Role)} {v : Values}

theorem roleOf_flag (l : Level) (f : Flag) (short : Bool) : roleOf l (f.spelling short) =
    .ok (if f ∈ l.flags then .flag f (isShort (f.spelling short)) none else .unknown) := by
  cases l <;> cases f <;> cases short <;> decide

theorem flag_ne_hyphens (f : Flag) (short : Bool) : f.spelling short ≠ "--" := by
  cases f <;> cases short <;> decide

theorem roleOf_word (l : Level) (w : Word) : roleOf l w.text = .ok .plain := by
  have hplain := w.plain
  rw [roleOf.eq_def]
  split
  · rfl
  · rfl
  · rename_i h
    rw [h] at hplain
    exact absurd rfl hplain
  · rfl

theorem word_ne_hyphens (w : Word) : w.text ≠ "--" := by
  intro h
  exact w.plain (by rw [h]; rfl)

theorem roles_cons {arg : String} {r : Role} (harg : arg ≠ "--") (hr : roleOf l arg = .ok r)
    (args : List String) : roles l (arg :: args) = (roles l args).map ((arg, r) :: ·) := by
  rw [roles, if_neg (by simpa using harg), hr]
  cases roles l args with
  | error c => rfl
  | ok rs => rfl

theorem roles_words (l : Level) (f : OwnFlag) {args : List String} (h : roles l args = .ok rest) :
    roles l (f.words ++ args) = .ok (f.roled l ++ rest) := by
  have hname : roleOf l f.spelling = .ok (f.role l) := roleOf_flag ..
  have hne : f.spelling ≠ "--" := flag_ne_hyphens _ _
  rw [OwnFlag.words, OwnFlag.roled, List.cons_append, roles_cons hne hname]
  cases f.value with
  | none => rw [Option.map_none, Option.toList_none, List.nil_append, h]; rfl
  | some w =>
    rw [Option.map_some, Option.toList_some, List.singleton_append,
      roles_cons (word_ne_hyphens w) (roleOf_word l w), h]
    rfl

theorem roles_flatMap_words (l : Level) (fs : List OwnFlag) {args : List String}
    (h : roles l args = .ok rest) :
    roles l (fs.flatMap (·.words) ++ args) = .ok (fs.flatMap (·.roled l) ++ rest) := by
  induction fs with
  | nil => exact h
  | cons f fs ih =>
    rw [List.flatMap_cons, List.append_assoc, roles_words l f ih, List.flatMap_cons, List.append_assoc]

theorem map_fst_flatMap_roled (l : Level) (fs : List OwnFlag) :
    (fs.flatMap (·.roled l)).map (·.1) = fs.flatMap (·.words) := by
  rw [List.map_flatMap]
  refine List.flatMap_congr fun f _ => ?_
  rw [OwnFlag.roled, OwnFlag.words]
  cases f.value with
  | none => rfl
  | some w => rfl

theorem length_le_flatMap_roled (l : Level) (fs : List OwnFlag) :
    fs.length ≤ (fs.flatMap (·.roled l)).length := by
  induction fs with
  | nil => exact Nat.le_refl _
  | cons f fs ih =>
    rw [List.flatMap_cons, List.length_append, List.length_cons, OwnFlag.roled, List.length_cons]
    omega

theorem readGenerate_flag (fuel : Nat) (v : Values) (f : OwnFlag) (rest : List (String × Role)) :
    readGenerate (fuel + 1) v (f.roled .generate ++ rest) = readGenerate fuel (v.after f) rest := by
  rcases f with (_ | _ | _) | _ | _ <;> rfl

theorem readProgram_flag (fuel : Nat) (v : Values) (f : LogFlag) (rest : List (String × Role)) :
    readProgram (fuel + 1) v ((OwnFlag.log f).roled .program ++ rest) =
      readProgram fuel (v.after (.log f)) rest := by
  rcases f with _ | _ | _ <;> rfl

end

theorem readGenerate_flags {fuel : Nat} {fs : List OwnFlag} (h : fs.length < fuel) (v : Values) :
    readGenerate fuel v (fs.flatMap (·.roled .generate)) = .ok (fs.foldl Values.after v, []) := by
  induction fs generalizing fuel v with
  | nil =>
    obtain ⟨fuel, rfl⟩ := Nat.exists_eq_add_of_lt h
    rfl
  | cons f fs ih =>
    cases fuel with
    | zero => simp at h
    | succ fuel =>
      rw [List.flatMap_cons, readGenerate_flag]
      exact ih (by simpa using h) _

/-- At the command what is behind it is read by itself and put over what came before. -/
theorem readProgram_command (fuel : Nat) (v : Values) (back : List OwnFlag) :
    readProgram (fuel + 1) v ((command, .plain) :: back.flatMap (·.roled .program)) =
      .ok (some (v.over (back.foldl Values.after Level.generate.defaults)), []) := by
  have hroles : roles .generate (back.flatMap (·.words)) = .ok (back.flatMap (·.roled .generate)) := by
    have hnil : roles .generate [] = .ok [] := rfl
    simpa using roles_flatMap_words .generate back hnil
  have hlength := length_le_flatMap_roled .generate back
  rw [readProgram, if_pos (by decide), map_fst_flatMap_roled, hroles]
  dsimp only [complain, Except.mapError, bind, Except.bind]
  rw [readGenerate_flags (Nat.lt_succ_of_le hlength)]
  rfl

theorem readProgram_flags {fuel : Nat} {front : List LogFlag} (h : front.length < fuel) (v : Values)
    (back : List OwnFlag) :
    readProgram fuel v ((front.map OwnFlag.log).flatMap (·.roled .program) ++
        (command, .plain) :: back.flatMap (·.roled .program)) =
      .ok (some (((front.map OwnFlag.log).foldl Values.after v).over
        (back.foldl Values.after Level.generate.defaults)), []) := by
  induction front generalizing fuel v with
  | nil =>
    obtain ⟨fuel, rfl⟩ := Nat.exists_eq_add_of_lt h
    exact readProgram_command _ v back
  | cons f front ih =>
    cases fuel with
    | zero => simp at h
    | succ fuel =>
      rw [List.map_cons, List.flatMap_cons, List.append_assoc, readProgram_flag]
      exact ih (by simpa using h) _

theorem foldl_after (v : Values) (fs : List OwnFlag) : fs.foldl Values.after v = {
    verbose := if (fs.filterMap OwnFlag.log?).any LogFlag.isVerbose then some true else v.verbose
    quiet := if (fs.filterMap OwnFlag.log?).any LogFlag.isQuiet then some true else v.quiet
    logFile := (((fs.filterMap OwnFlag.log?).filterMap LogFlag.path?).getLast?.map some).or v.logFile
    config := (fs.filterMap OwnFlag.config?).getLast?.or v.config
    output := ((fs.filterMap OwnFlag.output?).getLast?.map some).or v.output } := by
  induction fs using List.reverseRecOn with
  | nil => simp
  | append_singleton fs f ih =>
    rw [List.foldl_concat, ih]
    rcases f with (_ | _ | _) | _ | _ <;>
      simp [Values.after, OwnFlag.log?, OwnFlag.config?, OwnFlag.output?, LogFlag.isVerbose,
        LogFlag.isQuiet, LogFlag.path?, List.filterMap_cons, -List.getLast?_filterMap]

def callArgs (front : List LogFlag) (back : List OwnFlag) : List String :=
  (front.map OwnFlag.log).flatMap (·.words) ++ command :: back.flatMap (·.words)

theorem roles_callArgs (front : List LogFlag) (back : List OwnFlag) :
    roles .program (callArgs front back) =
      .ok ((front.map OwnFlag.log).flatMap (·.roled .program) ++
        (command, .plain) :: back.flatMap (·.roled .program)) := by
  have hnil : roles .program [] = .ok [] := rfl
  have hback := roles_flatMap_words .program back hnil
  have hcommand : roleOf .program command = .ok .plain := by decide
  rw [List.append_nil, List.append_nil] at hback
  refine roles_flatMap_words .program _ ?_
  rw [roles_cons (by decide) hcommand, hback]
  rfl

/-- What is read on both sides of the command is put together. -/
theorem ofArgs_callArgs (front : List LogFlag) (back : List OwnFlag) :
    Request.ofArgs (callArgs front back) =
      .ok (((front.map OwnFlag.log).foldl Values.after Level.program.defaults).over
        (back.foldl Values.after Level.generate.defaults)).request := by
  have hlength := length_le_flatMap_roled .program (front.map OwnFlag.log)
  rw [List.length_map] at hlength
  rw [Request.ofArgs, roles_callArgs]
  dsimp only [complain, Except.mapError, bind, Except.bind]
  rw [readProgram_flags (by rw [List.length_append]; omega)]
  rfl

/-- Flags for the log may stand on either side of the command: only their order as a whole counts. Of
those that give a file the last one does, and the command's own flags are read as without them. -/
theorem log_flags_on_either_side (front : List LogFlag) (back : List OwnFlag) :
    let logs := front ++ back.filterMap OwnFlag.log?
    Request.ofArgs (callArgs front back) = .ok {
      verbose := logs.any LogFlag.isVerbose
      quiet := logs.any LogFlag.isQuiet
      logFile := (logs.filterMap LogFlag.path?).getLast?
      config := (back.filterMap OwnFlag.config?).getLast?.getD "."
      output := (back.filterMap OwnFlag.output?).getLast? } := by
  intro logs
  have hlogs : (front.map OwnFlag.log).filterMap OwnFlag.log? = front := by
    rw [List.filterMap_map]
    exact List.filterMap_some
  rw [ofArgs_callArgs, foldl_after, foldl_after, hlogs, Values.over, Values.request, Except.ok.injEq,
    Request.mk.injEq]
  dsimp only [Level.defaults]
  refine ⟨?_, ?_, ?_, ?_, ?_⟩
  · rw [List.any_append]
    cases front.any LogFlag.isVerbose <;>
      cases (back.filterMap OwnFlag.log?).any LogFlag.isVerbose <;> rfl
  · rw [List.any_append]
    cases front.any LogFlag.isQuiet <;>
      cases (back.filterMap OwnFlag.log?).any LogFlag.isQuiet <;> rfl
  · rw [List.filterMap_append, List.getLast?_append]
    cases (front.filterMap LogFlag.path?).getLast? <;>
      cases ((back.filterMap OwnFlag.log?).filterMap LogFlag.path?).getLast? <;> rfl
  · cases (back.filterMap OwnFlag.config?).getLast? <;> rfl
  · cases (back.filterMap OwnFlag.output?).getLast? <;> rfl

end SchemaWrappers.CommandLine
