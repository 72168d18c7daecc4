import DeployOptions.Console.Row

/-! A titled box around a column of labels and a column of values. -/
namespace DeployOptions.Console

def terminalWidth : Nat := 80

def innerWidth : Nat := terminalWidth - 4

/-- The ends of lines as far as the width of a text goes. -/
private def isLineBreak (c : Char) : Bool :=
  [0x0A, 0x0B, 0x0C, 0x0D, 0x1C, 0x1D, 0x1E, 0x85, 0x2028, 0x2029].contains c.toNat

def textWidth (s : List Char) : Nat :=
  let lines := s.splitBy fun a b => isLineBreak a == isLineBreak b
  let widths := lines.map fun line => if line.any isLineBreak then 0 else cells line
  min innerWidth (widths.foldl max 0)

/-- The widths of two columns that are too wide together: the wider one gives way until both are
equal, and then both do. -/
def shrink (total a b : Nat) : Nat × Nat :=
  let excess := a + b - total
  let cut := min excess (max a b - min a b)
  let (a', b') := if a < b then (a, b - cut) else if b < a then (a - cut, b) else (a, b)
  let rest := a' + b' - total
  -- An odd cell is taken from the second column unless rounding to even prefers the first.
  let half := rest / 2 + (if rest % 2 = 1 ∧ rest / 2 % 2 = 1 then 1 else 0)
  (a' - half, b' - (rest - half))

/-- The widths of the column of labels, two blanks included, and of the column of values. A value
column that shows nothing takes up a cell unless room is short. -/
def columnWidths (rows : List (Styled × Styled)) : Nat × Nat :=
  let labels := min innerWidth ((rows.map fun r => textWidth r.1.text).foldl max 0 + 2)
  let values := (rows.map fun r => textWidth r.2.text).foldl max 0
  if labels + max 1 values ≤ innerWidth then (labels, max 1 values)
  else
    let (a, b) := shrink innerWidth labels (max 1 values)
    (a, min b values)

def entryRows (widths : Nat × Nat) (entry : Styled × Styled) :
    Except MarkupFault (List Row) := do
  let label ← entry.1.column (widths.1 - 2)
  let value ← entry.2.column widths.2
  let height := max 1 (max label.length value.length)
  return (List.range height).map fun i =>
    let left : Row := match label[i]? with
      | some row => row ++ Row.blank 2
      | none => Row.blank widths.1
    let right : Row := value[i]?.getD (Row.blank widths.2)
    Row.fit innerWidth (left.fit widths.1 ++ right.fit widths.2)

def titleLine (title : Styled) : Styled :=
  let flat := title.reword (title.text.map fun c => if c = '\n' then ' ' else c)
  let spaced := flat.expandTabs.indent 1 ' ' ++ ⟨[' '], []⟩
  let text := spaced.cut innerWidth .fold
  let excess := innerWidth - cells text.text
  let bar (count : Nat) : Styled :=
    if count = 0 then ⟨[], []⟩
    else ⟨List.replicate count '─', [{ start := 0, stop := count }]⟩
  let whole := bar (excess / 2) ++ text ++ bar (excess - excess / 2)
  (whole.trimEnd innerWidth).cut innerWidth .fold

def panelRows (title : Styled) (entries : List (Styled × Styled)) :
    Except MarkupFault (List Row) := do
  let widths := columnWidths entries
  let body ← entries.mapM (entryRows widths)
  let top ← Styled.rows [titleLine title]
  let edge (first last : Char) (row : Row) : Row := [[first]] ++ row ++ [[last]]
  let boxed := body.flatten.map fun row =>
    edge '│' '│' (Row.fit (terminalWidth - 2) (edge ' ' ' ' row))
  let top := top.map fun row => edge '╭' '╮' (edge '─' '─' row)
  let bottom : Row := edge '╰' '╯' [List.replicate (terminalWidth - 2) '─']
  return (top ++ boxed ++ [bottom]).map (·.crop terminalWidth)

end DeployOptions.Console
