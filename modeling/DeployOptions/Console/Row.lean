import DeployOptions.Console.Fault
import DeployOptions.Console.Style
import DeployOptions.Console.Wrap

/-! Rows of cells, made up of pieces that are measured one by one. -/
namespace DeployOptions.Console

abbrev Row := List (List Char)

namespace Row

def cells : Row → Nat
  | [] => 0
  | piece :: r => Console.cells piece + cells r

/-- The pieces up to a cell; the last one is fitted to it. -/
private def upTo (width : Nat) : Row → Row
  | [] => []
  | piece :: r =>
    let size := Console.cells piece
    if size < width then piece :: upTo (width - size) r else [fitTo width piece]

def crop (width : Nat) (row : Row) : Row := if width < row.cells then upTo width row else row

def blank (width : Nat) : Row := [List.replicate width ' ']

def fit (width : Nat) (row : Row) : Row :=
  if row.cells < width then row ++ blank (width - row.cells) else row.crop width

end Row

namespace Styled

/-- The rows of a text on lines. A style has to be readable once something is shown in it. -/
def rows (lines : List Styled) : Except MarkupFault (List Row) :=
  match (lines.flatMap (·.spans)).findSome? fun p => styleFault? p.style with
  | some fault => .error (.color fault)
  | none => .ok (lines.map pieces)

def fill (width : Nat) (line : Styled) : Styled :=
  line.reword (line.text ++ List.replicate (width - Console.cells line.text) ' ')

def column (width : Nat) (s : Styled) : Except MarkupFault (List Row) :=
  if width = 0 then .ok []
  else
    (rows ((s.wrap width .ellipsis).map (fill width))).map fun rows =>
      rows.map (·.fit width)

end Styled
end DeployOptions.Console
