import DeployOptions.Console.Styled

/-! Breaking text into lines that fit a width. -/
namespace DeployOptions.Console

inductive Overflow
  | fold
  | ellipsis
deriving DecidableEq, Repr

/-- The words of a text, each with the blanks after it; blanks at the front belong to the first. -/
def wordsWithBlanks (s : List Char) : List (List Char) :=
  let runs := s.splitBy fun a b => Text.isSpace a == Text.isSpace b
  let rec pair : List (List Char) → List (List Char)
    | w :: b :: r => (w ++ b) :: pair r
    | r => r
  match runs with
  | a :: r =>
    if a.head?.any Text.isSpace then
      match r with
      | w :: b :: r => (a ++ w ++ b) :: pair r
      | [w] => [a ++ w]
      | [] => []
    else pair (a :: r)
  | [] => []

private def starts (position : Nat) : List (List Char) → List Nat
  | [] => []
  | p :: r => position :: starts (position + p.length) r

/-- The positions at which lines of `width` cells end when words are put one after the other. The
next word begins at `position`, and the open line takes up `used` cells. -/
def breaksFrom (width : Nat) (overflow : Overflow) (position used : Nat) :
    List (List Char) → List Nat
  | [] => []
  | word :: r =>
    let next := position + word.length
    let bare := cells (word.reverse.dropWhile Text.isSpace).reverse
    if used + bare ≤ width then breaksFrom width overflow next (used + cells word) r
    else if width < bare then
      match overflow with
      | .fold =>
        let pieces := chop width word
        (starts position pieces).filter (· ≠ 0) ++
          breaksFrom width overflow next (cells (pieces.getLast?.getD [])) r
      | .ellipsis =>
        (if position = 0 then [] else [position]) ++ breaksFrom width overflow next (cells word) r
    else if used ≠ 0 ∧ position ≠ 0 then
      position :: breaksFrom width overflow next (cells word) r
    else breaksFrom width overflow next used r

namespace Styled

def cut (width : Nat) (overflow : Overflow) (line : Styled) : Styled :=
  if cells line.text ≤ width then line
  else
    match overflow with
    | .fold => line.reword (fitTo width line.text)
    | .ellipsis => line.reword (fitTo (width - 1) line.text ++ ['…'])

def wrap (width : Nat) (overflow : Overflow) (s : Styled) : List Styled :=
  s.lines.flatMap fun line =>
    let line := line.expandTabs
    (line.divide (breaksFrom width overflow 0 0 (wordsWithBlanks line.text))).map fun part =>
      (part.trimEnd width).cut width overflow

end Styled
end DeployOptions.Console
