/-! Patterns of text with marked parts. Of several ways to match, the first one counts: the left
alternative before the right one, and more or fewer repetitions first, as a pattern says. -/
namespace DeployOptions.Text

/-- A pattern. A test looks at the characters before and behind a position. -/
inductive Pattern
  | empty
  | one (p : Char → Bool)
  | test (p : Option Char → Option Char → Bool)
  | seq (a b : Pattern)
  | either (a b : Pattern)
  | many (greedy : Bool) (least most : Nat) (a : Pattern)
  | mark (a : Pattern)

namespace Pattern

/-- How far a match has come: the position, the text around it, and the marked parts. -/
structure Place where
  position : Nat
  before : Option Char
  rest : List Char
  marks : List (Nat × Nat) := []

/-- Repeats a step that moves on `left` more times at most. -/
private def again (step : Place → (Place → Option Place) → Option Place) (greedy : Bool)
    (goal : Place → Option Place) : (least left : Nat) → Place → Option Place
  | least, 0, p => if least = 0 then goal p else none
  | least, left + 1, p =>
    let further (_ : Unit) : Option Place :=
      step p fun q =>
        if p.position < q.position then again step greedy goal (least - 1) left q else none
    if least ≠ 0 then further ()
    else if greedy then (further ()).or (goal p)
    else (goal p).or (further ())

/-- Matches at a place, in such a way that `goal` can be reached from where the match ends. -/
def run : Pattern → Place → (Place → Option Place) → Option Place
  | empty, p, goal => goal p
  | one f, p, goal =>
    match p.rest with
    | c :: r =>
      if f c then goal { p with position := p.position + 1, before := some c, rest := r } else none
    | [] => none
  | test f, p, goal => if f p.before p.rest.head? then goal p else none
  | seq a b, p, goal => a.run p fun q => b.run q goal
  | either a b, p, goal => (a.run p goal).or (b.run p goal)
  | many greedy least most a, p, goal => again a.run greedy goal least most p
  | mark a, p, goal =>
    a.run p fun q => goal { q with marks := q.marks ++ [(p.position, q.position)] }

private def marksFrom (a : Pattern) (position : Nat) (before : Option Char) (skip : Nat) :
    List Char → List (Nat × Nat)
  | [] => []
  | c :: r =>
    if skip ≠ 0 then marksFrom a (position + 1) (some c) (skip - 1) r
    else
      match a.run { position, before, rest := c :: r } some with
      | some q => q.marks ++ marksFrom a (position + 1) (some c) (q.position - position - 1) r
      | none => marksFrom a (position + 1) (some c) 0 r

def marks (a : Pattern) (s : List Char) : List (Nat × Nat) := marksFrom a 0 none 0 s

end Pattern
end DeployOptions.Text
