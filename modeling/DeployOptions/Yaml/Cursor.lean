import DeployOptions.Yaml.Fault

/-! Walking through a text and knowing the place. -/
namespace DeployOptions.Yaml

/-- Line breaks. Carriage returns have given way to newlines before a text is read. -/
def isBreak (c : Char) : Bool := c = '\n' || c = '\x85' || c = '\u2028' || c = '\u2029'

def isBlank (c : Char) : Bool := c = ' ' || c = '\t'

def endsWord : Option Char → Bool
  | none => true
  | some c => isBlank c || isBreak c

def isSpaceOrEnd : Option Char → Bool
  | none => true
  | some c => c = ' ' || isBreak c

def isNameCharacter (c : Char) : Bool := c.isAlphanum || c = '-' || c = '_'

def isHexDigit (c : Char) : Bool :=
  c.isDigit || ('a' ≤ c && c ≤ 'f') || ('A' ≤ c && c ≤ 'F')

/-- The place after a character. A byte order mark takes no column. -/
def Position.after (p : Position) (c : Char) : Position :=
  if isBreak c then ⟨p.index + 1, p.line + 1, 0⟩
  else if c = '\uFEFF' then { p with index := p.index + 1 }
  else ⟨p.index + 1, p.line, p.column + 1⟩

structure Cursor where
  position : Position := {}
  rest : List Char

namespace Cursor

def column (c : Cursor) : Nat := c.position.column

def peek (c : Cursor) : Option Char := c.rest.head?

def peekAt (c : Cursor) (n : Nat) : Option Char := c.rest[n]?

def isAtEnd (c : Cursor) : Bool := c.rest.isEmpty

def skip (n : Nat) (c : Cursor) : Cursor :=
  ⟨(c.rest.take n).foldl Position.after c.position, c.rest.drop n⟩

def span (p : Char → Bool) (c : Cursor) : List Char × Cursor :=
  let run := c.rest.takeWhile p
  (run, c.skip run.length)

def skipWhile (p : Char → Bool) (c : Cursor) : Cursor := (c.span p).2

def skipSpaces (c : Cursor) : Cursor := c.skipWhile (· = ' ')

/-- A line break and the place after it. All breaks read as newlines but the two separators. -/
def lineBreak? (c : Cursor) : Option (Char × Cursor) :=
  match c.rest with
  | [] => none
  | x :: _ =>
    if !isBreak x then none
    else some (if x = '\u2028' ∨ x = '\u2029' then x else '\n', c.skip 1)

def skipBreak (c : Cursor) : Cursor :=
  match c.lineBreak? with
  | some (_, d) => d
  | none => c

def skipComment (c : Cursor) : Cursor :=
  if c.peek = some '#' then c.skipWhile (!isBreak ·) else c

/-- Whether three equal characters stand here as a word. -/
def startsWithMark (mark : Char) (c : Cursor) : Bool :=
  c.rest.take 3 == [mark, mark, mark] && endsWord (c.peekAt 3)

/-- Whether a line that starts here begins or ends a document. -/
def startsWithDocumentMark (c : Cursor) : Bool := c.startsWithMark '-' || c.startsWithMark '.'

/-- A fault here, found while something was being read that began at `start`. -/
def fault (c : Cursor) (reading : Reading) (start : Position) (problem : Problem) : Fault :=
  .malformed (some (reading, some start)) problem c.position

end Cursor

end DeployOptions.Yaml
