/-! Texts that are nearly the same: the share of characters in common pieces decides. -/
namespace DeployOptions.Text

def commonFront : List Char → List Char → Nat
  | a :: r, b :: s => if a = b then commonFront r s + 1 else 0
  | _, _ => 0

structure CommonPiece where
  left : Nat := 0
  right : Nat := 0
  length : Nat := 0

/-- The longest common piece; of several the first in `a`, and of those the first in `b`. -/
def longestCommonPiece (a b : List Char) : CommonPiece :=
  (List.range a.length).foldl (fun best i =>
    (List.range b.length).foldl (fun best j =>
      let n := commonFront (a.drop i) (b.drop j)
      if best.length < n then ⟨i, j, n⟩ else best) best) {}

private def commonCountFrom : Nat → List Char → List Char → Nat
  | 0, _, _ => 0
  | budget + 1, a, b =>
    let p := longestCommonPiece a b
    if p.length = 0 then 0
    else
      commonCountFrom budget (a.take p.left) (b.take p.right) + p.length +
        commonCountFrom budget (a.drop (p.left + p.length)) (b.drop (p.right + p.length))

/-- The characters in the longest common piece and, likewise, in the texts on both of its sides. -/
def commonCount (a b : List Char) : Nat := commonCountFrom (a.length + 1) a b

/-- Whether at least three fifths of the characters of two texts are in common. -/
def isSimilar (a b : List Char) : Bool := 3 * (a.length + b.length) ≤ 10 * commonCount a b

/-- The candidates that are similar to a text: at most three, the most similar ones, in the order
of their texts. -/
def similar (s : String) (candidates : List String) : List String :=
  let share (c : String) : Nat × Nat := (commonCount c.toList s.toList, c.length + s.length)
  let isCloser (a b : String) : Bool :=
    let (m, k) := share a
    let (n, l) := share b
    n * k < m * l || (m * l = n * k && b ≤ a)
  let close := (candidates.filter fun c => isSimilar c.toList s.toList).mergeSort isCloser
  (close.take 3).mergeSort fun a b => a ≤ b

end DeployOptions.Text
