import SchemaWrappers.Json

namespace SchemaWrappers.Script

/-- Where the opening brace of a block goes. -/
inductive BraceStyle where
  | collapse
  | expand
  | endExpand
  | preserve
  deriving DecidableEq, Repr

/-- Where a line is broken at an operator. -/
inductive OperatorPosition where
  | beforeNewline
  | afterNewline
  | preserveNewline
  deriving DecidableEq, Repr

/-- Why a name cannot be set to a value. -/
inductive Refusal where
  | notClass (kind : String)
  | notSettings (kind : String)
  | fixed
  deriving DecidableEq, Repr

def Refusal.message : Refusal → String
  | notClass kind => s!"__class__ must be set to a class, not '{kind}' object"
  | notSettings kind => s!"__dict__ must be set to a dictionary, not a '{kind}'"
  | fixed => "attribute '__weakref__' of 'Options' objects is not writable"

structure Options where
  disabled : Bool
  /-- The line end of the result; `none` takes over that of the input. -/
  eol : Option String
  endWithNewline : Bool
  indentSize : Int
  indentChar : String
  indentLevel : Int
  indentWithTabs : Bool
  indentEmptyLines : Bool
  preserveNewlines : Bool
  maxPreserveNewlines : Int
  wrapLineLength : Int
  braceStyle : BraceStyle
  braceInline : Bool
  unindentChained : Bool
  breakChained : Bool
  spaceInParen : Bool
  spaceInEmptyParen : Bool
  caseWithSwitch : Bool
  spaceAfterAnonymous : Bool
  spaceAfterNamed : Bool
  keepArrays : Bool
  spaceBeforeCondition : Bool
  commaFirst : Bool
  operatorPosition : OperatorPosition

namespace Options

/-- A value serves as a flag by not being empty or zero. -/
def truth : Json → Bool
  | .null => false
  | .bool b => b
  | .whole n => n != 0
  | .float x => !(x == 0.0)
  | .text s => !s.isEmpty
  | .halved _ => true
  | .list xs => !xs.isEmpty
  | .object fs => !fs.isEmpty

def text? (mark : Nat → Char) : Json → Option String
  | .text s => some s
  | .halved codes => some ((Text.Spelled.halved codes).marked mark)
  | _ => none

/-- A value as a whole number. Text that is none counts as zero; values of other kinds are
refused. -/
def number : Json → Option Int
  | .bool b => some (if b then 1 else 0)
  | .whole n => some n
  | .float x => if x.isNaN then some 0 else if x.isInf then none else some (Decimal.truncate x)
  | .text s => some ((Text.whole 10 s.toList).toOption.getD 0)
  | .halved _ => some 0
  | _ => none

/-- Replaces an escape that was written as two characters. -/
def unescape (letter real : Char) : List Char → List Char
  | '\\' :: c :: cs => if c == letter then real :: unescape letter real cs else '\\' :: unescape letter real (c :: cs)
  | c :: cs => c :: unescape letter real cs
  | [] => []

/-- Text with its line ends and tabs unescaped; other kinds count as empty. -/
def characters (mark : Nat → Char) (v : Json) : String :=
  let cs := ((text? mark v).getD "").toList
  String.ofList (unescape 't' '\t' (unescape 'n' '\n' (unescape 'r' '\r' cs)))

def isChoiceChar (c : Char) : Bool := c.isAlphanum || c == '_' || c == '/' || c == '-'

/-- The stretches of choice characters in a text, with empty ones at its ends. -/
def choicesOfText (cs : List Char) : List (List Char) :=
  let rec go (current : List Char) : List Char → List (List Char)
    | [] => [current.reverse]
    | c :: cs =>
      if isChoiceChar c then go (c :: current) cs
      else if cs.head?.any (!isChoiceChar ·) then go current cs
      else current.reverse :: go [] cs
  go [] cs

def choices (mark : Nat → Char) (allowed : List String) (v : Json) : Option (List String) :=
  let found := match v with
    | .list xs => xs.map fun | .text s => s | _ => ""
    | v => match text? mark v with
      | some s => (choicesOfText s.toList).map String.ofList
      | none => []
  if found.isEmpty || !found.all allowed.contains then none else some found

/-- What the names mean when nothing is set. -/
def defaults : List (String × Json) :=
  [("disabled", .bool false), ("eol", .text "auto"), ("end_with_newline", .bool false),
    ("indent_size", .whole 4), ("indent_char", .text " "), ("indent_level", .whole 0),
    ("preserve_newlines", .bool true), ("max_preserve_newlines", .whole 32786),
    ("indent_with_tabs", .bool false), ("wrap_line_length", .whole 0),
    ("indent_empty_lines", .bool false), ("templating", .list [.text "auto"]),
    ("brace_style", .text "collapse"), ("unindent_chained_methods", .bool false),
    ("break_chained_methods", .bool false), ("space_in_paren", .bool false),
    ("space_in_empty_paren", .bool false), ("jslint_happy", .bool false),
    ("space_after_anon_function", .bool false), ("space_after_named_function", .bool false),
    ("keep_array_indentation", .bool false), ("space_before_conditional", .bool true),
    ("comma_first", .bool false), ("operator_position", .text "before-newline")]

def kindName : Json → String
  | .null => "NoneType"
  | .bool _ => "bool"
  | .whole _ => "int"
  | .float _ => "float"
  | .text _ | .halved _ => "str"
  | .list _ => "list"
  | .object _ => "dict"

/-- A name as it is set; hyphens count as underscores. -/
def settingName (name : String) : String :=
  String.ofList (name.toList.map fun c => if c == '-' then '_' else c)

/-- Sets a name. Three names are not free: every group of settings has a class, which no value can be
set to, a mark that cannot be set, and all its settings together, which only named values replace. -/
def assign (all : List (String × Json)) (name : String) (v : Json) :
    Except Refusal (List (String × Json)) :=
  if name == "__class__" then .error (.notClass (kindName v))
  else if name == "__weakref__" then .error .fixed
  else if name == "__dict__" then
    match v with
    | .object fields => .ok fields
    | v => .error (.notSettings (kindName v))
  else .ok (Json.setField all name v)

/-- Sets names one by one over what they mean by themselves. -/
def assigned (fields : List (String × Json)) : Except Refusal (List (String × Json)) :=
  fields.foldlM (fun all f => assign all (settingName f.1) f.2) defaults

/-- Hyphens are left only in settings that were replaced together; each such name is set anew. -/
def settled (all : List (String × Json)) : Option (List (String × Json)) :=
  all.foldlM (fun kept f =>
    if !f.1.toList.contains '-' then some kept
    else if (kept.lookup f.1).isNone then none
    else (assign (kept.filter (·.1 != f.1)) (settingName f.1) f.2).toOption) all

/-- The brace styles and the flag that keeps inline blocks; of several styles the last counts. -/
def braces (found : List String) : BraceStyle × Bool :=
  found.foldl (fun (style, inline) s =>
    match s with
    | "preserve-inline" => (style, true)
    | "expand" => (.expand, inline)
    | "end-expand" => (.endExpand, inline)
    | "none" => (.preserve, inline)
    | _ => (.collapse, inline)) (.collapse, false)

/-- The settings for scripts; those under `js` come last. Nothing if a value cannot be used. Halves of
surrogate pairs count as what `mark` makes of
them, which are no choice characters. -/
def ofAssigned (mark : Nat → Char) (all : List (String × Json)) : Option Options := do
  let all ← settled all
  let all ← match all.lookup "js" with
    | none => some all
    | some (.object []) => some all
    | some (.object own) => own.foldlM (fun all f => (assign all f.1 f.2).toOption) all
    | some v => if truth v then none else some all
  let get (name : String) : Json := ((all.lookup name).or (defaults.lookup name)).getD .null
  let flag (name : String) : Bool := truth (get name)
  let indentChar := characters mark (get "indent_char")
  let tabs := match all.lookup "indent_with_tabs" with
    | some v => truth v
    | none => indentChar == "\t"
  let size ← number (get "indent_size")
  let preserve := flag "preserve_newlines"
  let most ← number (get "max_preserve_newlines")
  let brace := match get "brace_style" with
    | .text "expand-strict" => .text "expand"
    | .text "collapse-preserve-inline" => .text "collapse,preserve-inline"
    | v => v
  let (style, inline) := braces
    (← choices mark ["collapse", "expand", "end-expand", "none", "preserve-inline"] brace)
  let _ ← choices mark ["auto", "none", "angular", "django", "erb", "handlebars", "php", "smarty"]
    (get "templating")
  let position ← match
      ← choices mark ["before-newline", "after-newline", "preserve-newline"] (get "operator_position") with
    | ["before-newline"] => some OperatorPosition.beforeNewline
    | ["after-newline"] => some .afterNewline
    | ["preserve-newline"] => some .preserveNewline
    | _ => none
  let eol := characters mark (get "eol")
  -- The older name of the width must be a number even where the newer one is set.
  let widest ← number ((all.lookup "max_char").getD (.whole 0))
  let wrap ← number ((all.lookup "wrap_line_length").getD (.whole widest))
  let caseWithSwitch := flag "jslint_happy"
  return {
    disabled := flag "disabled"
    eol := if eol == "auto" then none else some eol
    endWithNewline := flag "end_with_newline"
    indentSize := if tabs && size == 1 then 4 else size
    indentChar := if tabs then "\t" else indentChar
    indentLevel := ← number (get "indent_level")
    indentWithTabs := tabs
    indentEmptyLines := flag "indent_empty_lines"
    preserveNewlines := preserve
    maxPreserveNewlines := if preserve then most else 0
    wrapLineLength := wrap
    braceStyle := style
    braceInline := inline
    unindentChained := flag "unindent_chained_methods"
    breakChained := flag "break_chained_methods"
    spaceInParen := flag "space_in_paren"
    spaceInEmptyParen := flag "space_in_empty_paren"
    caseWithSwitch
    spaceAfterAnonymous := caseWithSwitch || flag "space_after_anon_function"
    spaceAfterNamed := flag "space_after_named_function"
    keepArrays := flag "keep_array_indentation"
    spaceBeforeCondition := flag "space_before_conditional"
    commaFirst := flag "comma_first"
    operatorPosition := position }

end Options
end SchemaWrappers.Script
