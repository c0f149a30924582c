import SchemaWrappers.Script.Options
import SchemaWrappers.Text.Character

/-! The page a script is laid out on: a line under construction below those already written. -/
namespace SchemaWrappers.Script

/-- Where a line may still be broken: behind so many pieces, at a width, with the indentation that
the rest would get. -/
structure Breakpoint where
  pieces : Nat
  width : Int
  level : Option Nat
  alignment : Nat

/-- A line: its indentation in levels, if it is indented at all, the columns added to that, and its
pieces, the last one first. -/
structure Line where
  level : Option Nat := none
  alignment : Nat := 0
  width : Int := 0
  pieces : List String := []
  breakpoint : Option Breakpoint := none

namespace Line

def isEmpty (l : Line) : Bool := l.pieces.isEmpty

/-- The characters a piece ends with since its last line break, or all of them on top of those
before it. -/
def widthAfter (before : Int) (piece : String) : Int :=
  let cs := piece.toList
  let tail := cs.reverse.takeWhile (· != '\n')
  if tail.length < cs.length then tail.length + 1 else before + cs.length

def push (l : Line) (piece : String) : Line :=
  { l with pieces := piece :: l.pieces, width := widthAfter l.width piece }

def pop (l : Line) : Line :=
  match l.pieces with
  | [] => l
  | p :: ps => { l with pieces := ps, width := l.width - p.length }

def trim (l : Line) : Line :=
  let blanks := (l.pieces.takeWhile (· == " ")).length
  { l with pieces := l.pieces.drop blanks, width := l.width - blanks }

end Line

/-- Indentation: its base text, the text of one level, and the columns one level takes. -/
structure Indentation where
  base : String
  unit : String
  size : Int

namespace Indentation

def ofOptions (o : Options) (base : String) : Indentation :=
  let unit := if o.indentWithTabs then o.indentChar
    else String.join (List.replicate o.indentSize.toNat o.indentChar)
  let base := if 0 < o.indentLevel then String.join (List.replicate o.indentLevel.toNat unit)
    else base
  ⟨base, unit, o.indentSize⟩

/-- The columns that an indentation takes; a line without one counts a level less than none. -/
def width (i : Indentation) (level : Option Nat) (alignment : Nat) : Int :=
  match level with
  | some n => i.base.length + n * i.size + alignment
  | none => alignment - i.size

def column (i : Indentation) (level : Option Nat) (alignment : Nat) : Int :=
  (level.getD 0 : Nat) * i.size + alignment

/-- The text that reaches a column: whole levels, then spaces. -/
def toColumn (i : Indentation) (column : Int) : String :=
  let levels := Int.fdiv column i.size
  String.join (List.replicate levels.toNat i.unit) ++
    String.ofList (List.replicate (column - levels * i.size).toNat ' ')

def text (i : Indentation) (level : Option Nat) (alignment : Nat) : String :=
  (if level.isSome then i.base else "") ++ i.toColumn (i.column level alignment)

end Indentation

/-- The page, with the nearest line above first. `level` and `alignment` are those of the line to
come. -/
structure Page where
  indentation : Indentation
  wrapWidth : Int
  indentEmpty : Bool
  raw : Bool := false
  level : Option Nat := none
  alignment : Nat := 0
  current : Line := {}
  above : List Line := []
  spaceBefore : Bool := false
  nonBreaking : Bool := false
  wrapped : Bool := false

namespace Page

def ofOptions (o : Options) (base : String) : Page where
  indentation := .ofOptions o base
  wrapWidth := o.wrapLineLength
  indentEmpty := o.indentEmptyLines

def lineCount (p : Page) : Nat := p.above.length + 1

def atLineStart (p : Page) : Bool := p.current.isEmpty

/-- Nothing is written yet. -/
def isEmpty (p : Page) : Bool := p.above.isEmpty && p.current.isEmpty

def afterBlankLine (p : Page) : Bool :=
  p.isEmpty || (p.current.isEmpty && (p.above.head?.map Line.isEmpty).getD true)

def indentLine (p : Page) (l : Line) (level : Option Nat) (alignment : Nat) : Line :=
  if l.isEmpty then
    { l with level, alignment, width := p.indentation.width level alignment }
  else l

def startLine (p : Page) : Page :=
  { p with
    above := p.current :: p.above
    current := p.indentLine {} p.level p.alignment }

def newLine (p : Page) (force : Bool) : Bool × Page :=
  if p.isEmpty || (!force && p.atLineStart) then (false, p)
  else (true, if p.raw then p else p.startLine)

/-- Indents the lines to come, and the one under construction if it is empty. The first line is
not indented; the answer tells whether another one was. -/
def setIndent (p : Page) (level alignment : Nat) : Bool × Page :=
  let p := { p with level := some level, alignment }
  if p.above.isEmpty then (false, { p with current := p.indentLine p.current (some 0) 0 })
  else (true, { p with current := p.indentLine p.current (some level) alignment })

/-- The line under construction goes without indentation, if it is empty. -/
def outdent (p : Page) : Page := { p with current := p.indentLine p.current none 0 }

def push (p : Page) (piece : String) : Page := { p with current := p.current.push piece }

/-- Marks the place up to which a line that gets too long is kept. -/
def markBreak (p : Page) : Page :=
  let here : Breakpoint := ⟨p.current.pieces.length, p.current.width, p.level, p.alignment⟩
  if p.wrapWidth == 0 then p
  else { p with current := { p.current with breakpoint := some here } }

/-- Breaks a line that is too long at its mark, if that gains room. -/
def wrap (p : Page) : Page :=
  match p.current.breakpoint with
  | none => { p with wrapped := false }
  | some b =>
    if b.pieces != 0 && p.wrapWidth < p.current.width &&
        p.indentation.width p.level p.alignment < b.width then
      let long := p.current
      let moved := long.pieces.take (long.pieces.length - b.pieces)
      let kept := { long with
        pieces := long.pieces.drop (long.pieces.length - b.pieces), width := b.width }
      let (_, p) := { p with current := kept }.newLine false
      let line := p.indentLine p.current b.level b.alignment
      let width := line.width + (long.width - b.width)
      let (pieces, width) := match moved.reverse with
        | " " :: rest => (rest.reverse, width - 1)
        | _ => (moved, width)
      { p with current := { line with pieces, width }, wrapped := true }
    else { p with wrapped := false }

def pushSpace (p : Page) : Page :=
  let p := if p.spaceBefore && !p.atLineStart then
      (if p.nonBreaking then p else p.markBreak).push " "
    else p
  { p with spaceBefore := false }

def write (p : Page) (piece : String) : Page :=
  { p.pushSpace.push piece with spaceBefore := false, nonBreaking := false }.wrap

/-- Writes a piece as it stood, after the line breaks and blanks that stood before it. -/
def writeRaw (p : Page) (newlines : Nat) (blanks piece : String) : Page :=
  let p := (List.replicate newlines ()).foldl (fun p _ => p.startLine) p
  { (p.outdent.push blanks).push piece with
    spaceBefore := false, nonBreaking := false, wrapped := false }

def dedentFrom (p : Page) (index : Nat) : Page :=
  let dedent (l : Line) : Line :=
    match l.level with
    | some (n + 1) => { l with level := some n, width := l.width - p.indentation.size }
    | _ => l
  let n := p.lineCount - index
  let current := if n = 0 then p.current else dedent p.current
  let breakpoint := current.breakpoint.map fun b =>
    match b.level with
    | some (n + 1) => { b with level := some n }
    | _ => b
  { p with
    current := { current with breakpoint }
    above := (p.above.take (n - 1)).map dedent ++ p.above.drop (n - 1) }

def trim (p : Page) : Page := { p with current := p.current.trim }

def dropEmptyLines (current : Line) : List Line → Line × List Line
  | [] => (current, [])
  | l :: ls => if current.isEmpty then dropEmptyLines l.trim ls else (current, l :: ls)

def trimLines (p : Page) : Page :=
  let (current, above) := dropEmptyLines p.current.trim p.above
  { p with current, above }

/-- The text of a line. Levels of negative width lead to columns left of the first, which exist
only as far as columns were written before: `reach` counts those. -/
def lineText (p : Page) (reach : Nat) (l : Line) : Option (String × Nat) :=
  let (level, alignment) := if l.isEmpty then (l.level, 0) else (l.level, l.alignment)
  if l.isEmpty && !p.indentEmpty then some ("", reach)
  else
    let column := p.indentation.column level alignment
    if column < -reach then none
    else
      some (p.indentation.text level alignment ++ String.join l.pieces.reverse,
        max reach (column.toNat + 1))

def linesText (p : Page) (reach : Nat) : List Line → Option (List String)
  | [] => some []
  | l :: ls => do
    let (s, reach) ← p.lineText reach l
    return s :: (← p.linesText reach ls)

def trimLastPiece (l : Line) : Line :=
  match l.pieces with
  | [] => l
  | p :: _ =>
    let cs := p.toList.reverse.dropWhile (· == '\n')
    if p.isEmpty then l.pop else l.pop.push (String.ofList cs.reverse)

def text (p : Page) (endWithNewline : Bool) (eol : String) : Option String := do
  let p := p.trimLines
  let p := { p with current := trimLastPiece p.current }
  let p := if endWithNewline then p.startLine else p
  let lines ← p.linesText 1 (p.current :: p.above).reverse
  let text := "\n".intercalate lines
  return if eol == "\n" then text
    else eol.intercalate ((Text.pieces (· == '\n') text.toList).map String.ofList)

end Page
end SchemaWrappers.Script
