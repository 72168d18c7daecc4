import DeployOptions.Console.Cell.Table
import DeployOptions.Text.Printable

/-! How many terminal cells a text takes up. Characters that are drawn as one picture are joined
in clusters, and a text is cut only between clusters. -/
namespace DeployOptions.Console

private def isIn (ranges : Array (Nat × Nat)) (c : Char) : Bool :=
  Text.inRanges ranges c.toNat 0 ranges.size

def cellsOf (c : Char) : Nat :=
  if isIn zeroWidthRanges c then 0 else if isIn doubleWidthRanges c then 2 else 1

/-- Joins the character before it and the one after it in one picture. -/
def joiner : Char := '\u200D'

def pictureMark : Char := '\uFE0F'

def markCells (last : Option Char) : Nat := if last.any (isIn widenedRanges) then 1 else 0

/-- The cells of a text after the visible character `last`. What a joiner joins takes up no cells
of its own. -/
def cellsAfter (last : Option Char) : List Char → Nat
  | [] => 0
  | c :: r =>
    if c = joiner then
      match r with
      | [] => 0
      | _ :: r => cellsAfter last r
    else if c = pictureMark then markCells last + cellsAfter none r
    else if cellsOf c = 0 then cellsAfter last r
    else cellsOf c + cellsAfter (some c) r

def cells (s : List Char) : Nat := cellsAfter none s

/-- Characters that stay together, and their cells. -/
structure Cluster where
  text : List Char
  cells : Nat
deriving DecidableEq, Repr

namespace Cluster

def extend (k : Cluster) (more : List Char) (cells : Nat) : Cluster :=
  ⟨k.text ++ more, k.cells + cells⟩

/-- The clusters of a text, where `open?` is the cluster read last. A joiner, a mark or a
character without cells goes to the cluster before it, and forms one where there is none. -/
def ofText (open? : Option Cluster) (last : Option Char) : List Char → List Cluster
  | [] => open?.toList
  | c :: r =>
    match open? with
    | none => ofText (some ⟨[c], cellsOf c⟩) (if cellsOf c = 0 then last else some c) r
    | some k =>
      if c = joiner then
        match r with
        | [] => [k.extend [c] 0]
        | d :: r => ofText (some (k.extend [c, d] 0)) last r
      else if c = pictureMark then ofText (some (k.extend [c] (markCells last))) none r
      else if cellsOf c = 0 then ofText (some (k.extend [c] 0)) last r
      else k :: ofText (some ⟨[c], cellsOf c⟩) (some c) r

/-- The clusters up to a cell. A blank fills the cell at which a wide cluster would be split. -/
def upTo (cell : Nat) : List Cluster → List Char
  | [] => []
  | k :: r =>
    if k.cells ≤ cell ∧ cell ≠ 0 then k.text ++ upTo (cell - k.cells) r
    else if cell = 0 then [] else [' ']

end Cluster

def clusters (s : List Char) : List Cluster := Cluster.ofText none none s

def fitTo (width : Nat) (s : List Char) : List Char :=
  if width = 0 then []
  else if cells s ≤ width then s ++ List.replicate (width - cells s) ' '
  else Cluster.upTo width (clusters s)

/-- Cuts clusters into pieces of at most `width` cells, with `piece` as the one begun. -/
def chopFrom (width : Nat) (piece : Cluster) : List Cluster → List (List Char)
  | [] => if piece.cells = 0 then [] else [piece.text]
  | k :: r =>
    if width < piece.cells + k.cells then piece.text :: chopFrom width k r
    else chopFrom width (piece.extend k.text k.cells) r

def chop (width : Nat) (word : List Char) : List (List Char) :=
  chopFrom width ⟨[], 0⟩ (clusters word)

end DeployOptions.Console
