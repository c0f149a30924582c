import SchemaWrappers.Text.Character
import SchemaWrappers.Text.Quoted

/-! What the command line asks for: its flags before and behind the command, and what is wrong with
it. -/
namespace SchemaWrappers.CommandLine

/-- The flags before the command, and those behind it. -/
inductive Level where
  | program
  | generate
  deriving DecidableEq, Repr

inductive Flag where
  | help
  | verbose
  | quiet
  | logFile
  | config
  | output
  deriving DecidableEq, Repr

namespace Flag

def spellings : Flag → List String
  | help => ["-h", "--help"]
  | verbose => ["-v", "--verbose"]
  | quiet => ["-q", "--quiet"]
  | logFile => ["--log-file"]
  | config => ["--config"]
  | output => ["--output"]

def takesValue : Flag → Bool
  | logFile | config | output => true
  | _ => false

end Flag

def command : String := "generate"

namespace Level

def flags : Level → List Flag
  | program => [.help, .verbose, .quiet, .logFile]
  | generate => [.help, .verbose, .quiet, .logFile, .config, .output]

def spelled (l : Level) : List (String × Flag) :=
  l.flags.flatMap fun f => f.spellings.map (·, f)

def flag? (l : Level) (spelling : String) : Option Flag := l.spelled.lookup spelling

def name : Level → String
  | program => "buildergen"
  | generate => "buildergen " ++ command

end Level

inductive Complaint where
  | ambiguous (arg : String) (spellings : List String)
  | noValue (flag : Flag)
  | ignored (flag : Flag) (value : String)
  | unknownCommand (word : String)
  | noCommand
  | unrecognized (args : List String)
  deriving DecidableEq, Repr

def Complaint.message : Complaint → String
  | ambiguous arg spellings =>
    let all := ", ".intercalate spellings
    s!"ambiguous option: {arg} could match {all}"
  | noValue flag =>
    let names := "/".intercalate flag.spellings
    s!"argument {names}: expected one argument"
  | ignored flag value =>
    let names := "/".intercalate flag.spellings
    s!"argument {names}: ignored explicit argument {Text.quote value}"
  | unknownCommand word =>
    s!"argument command: invalid choice: {Text.quote word} (choose from {Text.quote command})"
  | noCommand => "the following arguments are required: command"
  | unrecognized args => "unrecognized arguments: " ++ " ".intercalate args

/-- Why no command is carried out: help is asked for, or the command line is no good. -/
inductive Stop where
  | help (l : Level)
  | usage (l : Level) (c : Complaint)
  deriving DecidableEq, Repr

/-- What an argument is: a flag, `short` if it is spelled with one letter, to which something may be
joined; something that looks like a flag; two hyphens alone, behind which nothing is a flag; or a
plain word. -/
inductive Role where
  | flag (f : Flag) (short : Bool) (joined : Option String)
  | unknown
  | hyphens
  | plain
  deriving DecidableEq, Repr

def splitValue (arg : String) : String × Option String :=
  let cs := arg.toList
  match cs.dropWhile (· != '=') with
  | [] => (arg, none)
  | _ :: value => (String.ofList (cs.takeWhile (· != '=')), some (String.ofList value))

/-- The flags that an abbreviation may stand for, with their spellings. A single hyphen has a letter
behind it, to which others may be joined; the name behind two hyphens may be cut short. -/
def candidates (l : Level) (arg : String) : List (String × Flag × Option String) :=
  match arg.toList with
  | '-' :: '-' :: _ =>
    let (front, joined) := splitValue arg
    (l.spelled.filter fun s => front.toList.isPrefixOf s.1.toList).map fun s => (s.1, s.2, joined)
  | '-' :: c :: more =>
    l.spelled.filterMap fun s =>
      if s.1 == String.ofList ['-', c] then some (s.1, s.2, some (String.ofList more))
      else if arg.toList.isPrefixOf s.1.toList then some (s.1, s.2, none)
      else none
  | _ => []

/-- A number with a minus, which is no flag. -/
def isNegative (arg : String) : Bool :=
  match Text.withoutLineEnd arg.toList with
  | '-' :: cs =>
    let front := cs.takeWhile Text.isDecimalDigit
    match cs.dropWhile Text.isDecimalDigit with
    | [] => !front.isEmpty
    | '.' :: ds => !ds.isEmpty && ds.all Text.isDecimalDigit
    | _ => false
  | _ => false

def isShort (spelling : String) : Bool := !"--".toList.isPrefixOf spelling.toList

def roleOf (l : Level) (arg : String) : Except Complaint Role :=
  match arg.toList with
  | [] | ['-'] => .ok .plain
  | '-' :: _ =>
    match l.flag? arg with
    | some f => .ok (.flag f (isShort arg) none)
    | none =>
      let (front, joined) := splitValue arg
      match l.flag? front, joined with
      | some f, some v => .ok (.flag f (isShort front) (some v))
      | _, _ =>
        match candidates l arg with
        | [] => .ok (if isNegative arg || arg.toList.contains ' ' then .plain else .unknown)
        | [(s, f, joined)] => .ok (.flag f (isShort s) joined)
        | many => .error (.ambiguous arg (many.map (·.1)))
  | _ => .ok .plain

def roles (l : Level) : List String → Except Complaint (List (String × Role))
  | [] => .ok []
  | arg :: args =>
    if arg == "--" then .ok ((arg, .hyphens) :: args.map (·, .plain))
    else do
      let r ← roleOf l arg
      return (arg, r) :: (← roles l args)

/-- Flags with their values, and the arguments behind them. -/
structure Taken where
  flags : List (Flag × Option String)
  rest : List (String × Role)

/-- A flag to which nothing is joined takes the next word if it needs a value. -/
def takeFlag (f : Flag) (rest : List (String × Role)) : Except Complaint Taken :=
  if f.takesValue then
    match rest with
    | (arg, .plain) :: rest => .ok { flags := [(f, some arg)], rest }
    | _ => .error (.noValue f)
  else .ok { flags := [(f, none)], rest }

def takeJoined (l : Level) (rest : List (String × Role)) (short : Bool) :
    Flag → List Char → Except Complaint Taken
  | f, cs =>
    if f.takesValue then .ok { flags := [(f, some (String.ofList cs))], rest }
    else
      match cs with
      | [] => .error (.ignored f "")
      | c :: more =>
        match if short then l.flag? (String.ofList ['-', c]) else none with
        | none => .error (.ignored f (String.ofList (c :: more)))
        | some g => do
          let t ← if more.isEmpty then takeFlag g rest else takeJoined l rest true g more
          return { t with flags := (f, none) :: t.flags }

def take (l : Level) (f : Flag) (short : Bool) (joined : Option String)
    (rest : List (String × Role)) : Except Complaint Taken :=
  match joined with
  | none => takeFlag f rest
  | some s => takeJoined l rest short f s.toList

/-- What is asked for. -/
structure Request where
  verbose : Bool := false
  quiet : Bool := false
  logFile : Option String := none
  config : String := "."
  output : Option String := none
  deriving DecidableEq, Repr

/-- The values that a level has for the flags. Of a flag that is left open it has none. -/
structure Values where
  verbose : Option Bool := none
  quiet : Option Bool := none
  logFile : Option (Option String) := none
  config : Option String := none
  output : Option (Option String) := none
  deriving DecidableEq, Repr

/-- The values before any flag is read. Behind the command the flags for the log are left open, so
that what was said of them before it holds on. -/
def Level.defaults : Level → Values
  | program => { verbose := some false, quiet := some false, logFile := some none }
  | generate => { config := some ".", output := some none }

/-- The values after a flag; of values given twice the last counts. -/
def Values.set (l : Level) (v : Values) (f : Flag × Option String) : Except Stop Values :=
  match f with
  | (.help, _) => .error (.help l)
  | (.verbose, _) => .ok { v with verbose := some true }
  | (.quiet, _) => .ok { v with quiet := some true }
  | (.logFile, path) => .ok { v with logFile := some path }
  | (.config, path) => .ok { v with config := path }
  | (.output, path) => .ok { v with output := some path }

/-- The values of one level with those of another put over them. -/
def Values.over (v own : Values) : Values where
  verbose := own.verbose <|> v.verbose
  quiet := own.quiet <|> v.quiet
  logFile := own.logFile <|> v.logFile
  config := own.config <|> v.config
  output := own.output <|> v.output

/-- What values ask for. Between them, both levels leave nothing open. -/
def Values.request (v : Values) : Request where
  verbose := v.verbose.getD false
  quiet := v.quiet.getD false
  logFile := v.logFile.join
  config := v.config.getD "."
  output := v.output.join

def complain (l : Level) (x : Except Complaint α) : Except Stop α := x.mapError (.usage l)

/-- Reads what stands behind the command; gives what was not understood too. -/
def readGenerate : Nat → Values → List (String × Role) → Except Stop (Values × List String)
  | 0, v, args => .ok (v, args.map (·.1))
  | _, v, [] => .ok (v, [])
  | fuel + 1, v, (arg, role) :: rest =>
    match role with
    | .flag f short joined => do
      let t ← complain .generate (take .generate f short joined rest)
      readGenerate fuel (← t.flags.foldlM (Values.set .generate) v) t.rest
    | _ => do
      let (v, extra) ← readGenerate fuel v rest
      return (v, arg :: extra)

/-- Reads the whole; the first plain word is the command. What is read behind it is put over what was
read before. -/
def readProgram : Nat → Values → List (String × Role) →
    Except Stop (Option Values × List String)
  | 0, _, args => .ok (none, args.map (·.1))
  | _, _, [] => .ok (none, [])
  | fuel + 1, v, (arg, role) :: rest =>
    match role with
    | .flag f short joined => do
      let t ← complain .program (take .program f short joined rest)
      readProgram fuel (← t.flags.foldlM (Values.set .program) v) t.rest
    | .unknown => do
      let (v, extra) ← readProgram fuel v rest
      return (v, arg :: extra)
    | .hyphens =>
      if rest.isEmpty then .ok (none, [arg]) else .error (.usage .program (.unknownCommand arg))
    | .plain =>
      if arg == command then do
        let behind ← complain .generate (roles .generate (rest.map (·.1)))
        let (own, extra) ← readGenerate (behind.length + 1) Level.generate.defaults behind
        return (some (v.over own), extra)
      else .error (.usage .program (.unknownCommand arg))

def Request.ofArgs (args : List String) : Except Stop Request := do
  let words ← complain .program (roles .program args)
  match ← readProgram (words.length + 1) Level.program.defaults words with
  | (none, _) => throw (.usage .program .noCommand)
  | (some v, []) => return v.request
  | (some _, extra) => throw (.usage .program (.unrecognized extra))

end SchemaWrappers.CommandLine
