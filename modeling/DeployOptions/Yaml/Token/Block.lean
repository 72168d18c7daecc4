import DeployOptions.Yaml.Cursor

/-! Block scalars: whole lines, kept as they are or folded. -/
namespace DeployOptions.Yaml.Block

inductive Ending
  | strip
  | clip
  | keep
deriving DecidableEq, Repr

/-- The signs after the one that opens a block scalar: its ending, and its indentation if given. -/
structure Header where
  ending : Ending := .clip
  indentation : Option Nat := none
deriving DecidableEq, Repr

private def ending? : Option Char → Option Ending
  | some '+' => some .keep
  | some '-' => some .strip
  | _ => none

private def indentation? (start : Position) (c : Cursor) : Except Fault (Option Nat) :=
  match c.peek with
  | some d =>
    if d = '0' then .error (c.fault .blockScalar start .zeroIndentation)
    else if d.isDigit then .ok (some (d.toNat - 48)) else .ok none
  | none => .ok none

private def header (start : Position) (c : Cursor) : Except Fault (Header × Cursor) := do
  let (h, c) ← match ending? c.peek with
    | some ending => do
      let c := c.skip 1
      match ← indentation? start c with
      | some n => pure (Header.mk ending (some n), c.skip 1)
      | none => pure (Header.mk ending none, c)
    | none => do
      match ← indentation? start c with
      | none => pure ({}, c)
      | some n =>
        let c := c.skip 1
        match ending? c.peek with
        | some ending => pure (Header.mk ending (some n), c.skip 1)
        | none => pure (Header.mk .clip (some n), c)
  if isSpaceOrEnd c.peek then return (h, c)
  else throw (c.fault .blockScalar start
    (.expectedCharacter "chomping or indentation indicators" c.peek))

def restOfLine (reading : Reading) (start : Position) (c : Cursor) : Except Fault Cursor :=
  let c := c.skipSpaces.skipComment
  match c.peek with
  | none => .ok c
  | some x =>
    if isBreak x then .ok c.skipBreak
    else .error (c.fault reading start (.expectedCharacter "a comment or a line break" (some x)))

/-- Lines that hold only spaces: their breaks, the place after the last break, and where reading
has come to. -/
structure Blank where
  breaks : List Char
  stop : Position
  after : Cursor

/-- Skips lines of spaces and finds the column of the deepest one. -/
private def leadingLines : Nat → Position → Cursor → Blank × Nat
  | 0, stop, c => (⟨[], stop, c⟩, 0)
  | budget + 1, stop, c =>
    let d := c.skipSpaces
    let deepest := if d.position = c.position then 0 else d.column
    match d.lineBreak? with
    | none => (⟨[], stop, d⟩, deepest)
    | some (b, d) =>
      let (more, depth) := leadingLines budget d.position d
      ({ more with breaks := b :: more.breaks }, max deepest depth)

private def skipIndentation (indentation : Nat) (c : Cursor) : Cursor :=
  c.skip ((c.rest.take (indentation - c.column)).takeWhile (· = ' ')).length

private def blankLines (indentation : Nat) : Nat → Position → Cursor → Blank
  | 0, stop, c => ⟨[], stop, c⟩
  | budget + 1, stop, c =>
    let d := skipIndentation indentation c
    match d.lineBreak? with
    | none => ⟨[], stop, d⟩
    | some (b, d) =>
      let more := blankLines indentation budget d.position d
      { more with breaks := b :: more.breaks }

private def startsWithBlank (c : Cursor) : Bool := c.peek.any isBlank

/-- Reads the lines of a block scalar: its text without the last break, that break, and the blank
lines at the end. -/
private def lines (isFolded : Bool) (indentation : Nat) :
    Nat → Blank → List Char × List Char × Blank
  | 0, before => ([], [], before)
  | budget + 1, before =>
    let c := before.after
    if c.column ≠ indentation ∨ c.isAtEnd then ([], [], before)
    else
      let (line, d) := c.span (!isBreak ·)
      let (lineBreak, d) := match d.lineBreak? with
        | some (b, d) => ([b], d)
        | none => ([], d)
      let after := blankLines indentation (d.rest.length + 1) d.position d
      let e := after.after
      if e.column = indentation ∧ !e.isAtEnd then
        let joint :=
          if isFolded ∧ lineBreak = ['\n'] ∧ !startsWithBlank c ∧ !startsWithBlank e then
            if after.breaks.isEmpty then [' '] else []
          else lineBreak
        let (text, last, trailing) := lines isFolded indentation budget after
        (before.breaks ++ line ++ joint ++ text, last, trailing)
      else (before.breaks ++ line, lineBreak, after)

structure Read where
  text : List Char
  stop : Position
  after : Cursor

/-- Reads a block scalar that begins with the sign at the cursor. Its lines stand at `least` or
deeper; without an indentation in the header the first line that holds something decides. -/
def scan (isFolded : Bool) (least : Nat) (c : Cursor) : Except Fault Read := do
  let start := c.position
  let (h, c) ← header start (c.skip 1)
  let c ← restOfLine .blockScalar start c
  let budget := c.rest.length + 1
  let (indentation, before) := match h.indentation with
    | none =>
      let (before, depth) := leadingLines budget c.position c
      (max least depth, before)
    | some n =>
      let indentation := least + n - 1
      (indentation, blankLines indentation budget c.position c)
  let (text, last, trailing) := lines isFolded indentation budget before
  let ended := match h.ending with
    | .strip => []
    | .clip => last
    | .keep => last ++ trailing.breaks
  return ⟨text ++ ended, trailing.stop, trailing.after⟩

end DeployOptions.Yaml.Block
