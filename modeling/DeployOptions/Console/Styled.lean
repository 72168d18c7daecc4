import DeployOptions.Console.Cell
import DeployOptions.Text.Blank
import DeployOptions.Text.Split

/-! Text with styled spans. The styles themselves are not shown, but a text is measured and cut
piece by piece, and its pieces end where spans do. -/
namespace DeployOptions.Console

/-- A stretch of a text, counted in characters, and the name of its style. -/
structure Span where
  start : Nat
  stop : Nat
  style : List Char := []
deriving DecidableEq, Repr

namespace Span

def shift (offset : Nat) (s : Span) : Span :=
  { s with start := s.start + offset, stop := s.stop + offset }

/-- The part of the span between two positions, counted from the first; none if it is empty. -/
def within? (first last : Nat) (s : Span) : Option Span :=
  let start := s.start - first
  let stop := min s.stop last - first
  if start < stop then some { s with start, stop } else none

def upTo? (length : Nat) (s : Span) : Option Span :=
  if s.start < length then some { s with stop := min s.stop length } else none

end Span

structure Styled where
  text : List Char
  spans : List Span := []
deriving DecidableEq, Repr

namespace Styled

def append (a b : Styled) : Styled :=
  ⟨a.text ++ b.text, a.spans ++ b.spans.map (Span.shift a.text.length)⟩

instance : Append Styled := ⟨append⟩

def slice (first last : Nat) (s : Styled) : Styled :=
  ⟨(s.text.take last).drop first, s.spans.filterMap (Span.within? first last)⟩

def divide (positions : List Nat) (s : Styled) : List Styled :=
  match positions with
  | [] => [s]
  | positions =>
    (List.zip (0 :: positions) (positions ++ [s.text.length])).map fun (first, last) =>
      s.slice first last

/-- The text with another wording. Spans are cut to it if it is shorter. -/
def reword (text : List Char) (s : Styled) : Styled :=
  if text.length < s.text.length then ⟨text, s.spans.filterMap (Span.upTo? text.length)⟩
  else { s with text }

def indent (count : Nat) (c : Char) (s : Styled) : Styled :=
  ⟨List.replicate count c ++ s.text, s.spans.map (Span.shift count)⟩

private def bounds (s : Styled) : List Nat :=
  (s.text.length :: s.spans.flatMap fun p => [p.start, p.stop]).mergeSort (· ≤ ·)

private def piecesFrom (position : Nat) (rest : List Char) : List Nat → List (List Char)
  | [] => []
  | bound :: bounds =>
    if position < bound then
      rest.take (bound - position) :: piecesFrom bound (rest.drop (bound - position)) bounds
    else piecesFrom position rest bounds

/-- The pieces of a text, which end where a span begins or ends. -/
def pieces (s : Styled) : List (List Char) := piecesFrom 0 s.text s.bounds

def lines (s : Styled) : List Styled :=
  let rec linesFrom (start : Nat) : List (List Char) → List Styled
    | [] => []
    | line :: r =>
      s.slice start (start + line.length) :: linesFrom (start + line.length + 1) r
  if '\n' ∈ s.text then linesFrom 0 (Text.fields '\n' s.text) else [s]

/-- Adds blanks at the end, to the spans that end there as well. -/
def widen (count : Nat) (s : Styled) : Styled :=
  ⟨s.text ++ List.replicate count ' ', s.spans.map fun p =>
    if s.text.length ≤ p.stop then { p with stop := p.stop + count } else p⟩

/-- Puts texts that ended with a tab one after the other, each filled up with blanks to the next
multiple of eight cells; the last one did not. -/
def joinTabbed (column : Nat) (done : Styled) : List Styled → Styled
  | [] => done
  | [last] => done ++ last
  | part :: r =>
    let part := part.reword (part.text.dropLast ++ [' '])
    let column := column + cells part.text
    let missing := (8 - column % 8) % 8
    joinTabbed (column + missing) (done ++ part.widen missing) r

private def tabStops (position : Nat) : List Char → List Nat
  | [] => []
  | c :: r =>
    let next := position + 1
    if c = '\t' then next :: tabStops next r else tabStops next r

def expandTabs (s : Styled) : Styled :=
  if '\t' ∈ s.text then joinTabbed 0 ⟨[], []⟩ (s.divide (tabStops 0 s.text)) else s

/-- Takes blanks at the end away as far as the text is longer than `length` characters. -/
def trimEnd (length : Nat) (s : Styled) : Styled :=
  let blanks := (s.text.reverse.takeWhile Text.isSpace).length
  s.reword (s.text.take (s.text.length - min blanks (s.text.length - length)))

end Styled
end DeployOptions.Console
