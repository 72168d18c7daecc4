import DeployOptions.Yaml.Token.Quoted

/-! Scalars without quotes. They end before a colon or a comment, and may go on in further lines. -/
namespace DeployOptions.Yaml.Plain

def endsBefore (flow : Bool) (c : Char) (next : Option Char) : Bool :=
  isBlank c || isBreak c || (flow && ",?[]\x7b\x7d".toList.contains c) ||
    (c = ':' && (endsWord next || (flow && next.any fun n => ",[]\x7b\x7d".toList.contains n)))

def run (flow : Bool) : List Char → List Char
  | [] => []
  | c :: r => if endsBefore flow c r.head? then [] else c :: run flow r

/-- Collects line breaks and skips spaces; none if a document mark follows a break. -/
private def gapBreaks : Nat → Cursor → Option (List Char) × Cursor
  | 0, c => (some [], c)
  | budget + 1, c =>
    match c.skipSpaces.lineBreak? with
    | none => (some [], c.skipSpaces)
    | some (b, d) =>
      if d.startsWithDocumentMark then (none, d)
      else
        let (bs, e) := gapBreaks budget d
        (bs.map (b :: ·), e)

structure Gap where
  /-- What it reads as; none if the scalar cannot go on. -/
  text : Option (List Char)
  hasBreak : Bool
  after : Cursor

def gap (c : Cursor) : Gap :=
  let (spaces, d) := c.span (· = ' ')
  match d.lineBreak? with
  | none => ⟨if spaces.isEmpty then none else some spaces, false, d⟩
  | some (b, d) =>
    if d.startsWithDocumentMark then ⟨none, true, d⟩
    else
      let (bs, d) := gapBreaks (d.rest.length + 1) d
      ⟨bs.map (Quoted.folded b), true, d⟩

/-- A plain scalar with the place where it ends; reading has gone on to `after`, and a key may
follow if a line break was passed at last. -/
structure Read where
  text : List Char
  stop : Position
  hasBreak : Bool
  after : Cursor

private def scanFrom (flow : Bool) (indent : Int) : Nat → Cursor → Read
  | 0, c => ⟨[], c.position, false, c⟩
  | budget + 1, c =>
    let text := run flow c.rest
    let d := c.skip text.length
    let g := gap d
    let last : Read := ⟨text, d.position, g.hasBreak, g.after⟩
    match g.text with
    | none => last
    | some joint =>
      if g.after.peek = some '#' ∨ (!flow ∧ (g.after.column : Int) < indent) ∨
          (run flow g.after.rest).isEmpty then last
      else
        let more := scanFrom flow indent budget g.after
        { more with text := text ++ joint ++ more.text }

/-- Reads a plain scalar. Outside brackets its further lines start at column `indent` or later. -/
def scan (flow : Bool) (indent : Int) (c : Cursor) : Read :=
  scanFrom flow indent (c.rest.length + 1) c

end DeployOptions.Yaml.Plain
