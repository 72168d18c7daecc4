import DeployOptions.Console.Highlight
import DeployOptions.Console.Markup
import DeployOptions.Console.Panel
import DeployOptions.Error
import DeployOptions.Value.Shown

/-! What the program says on the console: messages with a mark, a spinner, a summary panel. -/
namespace DeployOptions

inductive Notice
  | success (message : String)
  | warning (message : String)
  | error (message : String)
  | action (message : String)
  | step (message : String)
  | spinner (message : String)
  | panel (title : String) (rows : List (String × Value))
deriving Repr

namespace Notice

open Console (tagged)

/-- The markup of a notice that is printed as a line. -/
def markup? : Notice → Option String
  | .success m => some (tagged "success" "✓" ++ " " ++ m)
  | .warning m => some (tagged "warning" "⚠" ++ " " ++ m)
  | .error m => some (tagged "error" "✗" ++ " " ++ m)
  | .action m => some (tagged "info" "→" ++ " " ++ m)
  | .step m => some (tagged "muted" "•" ++ " " ++ m)
  | .spinner _ | .panel .. => none

def unrenderable? (rows : List (String × Value)) : Option Value :=
  (rows.find? fun r => match r.2 with
    | .str _ | .null => false
    | _ => true).map (·.2)

/-- The rows of a panel. A panel is refused for a value that is no text, and then for faulty
markup, first in the title, then in the labels and then in the values. -/
def panelRows (title : String) (rows : List (String × Value)) :
    Except Failure (List Console.Row) := do
  if let some v := unrenderable? rows then throw (.notRenderable v.kind)
  let styled (s : String) : Except Failure Console.Styled :=
    (Console.styledText s.toList).mapError .markup
  let title ← styled (tagged "bold" title)
  let labels ← rows.mapM fun r => styled (r.1 ++ ":")
  let values ← rows.mapM fun r => styled (match r.2 with
    | .str s => s
    | _ => "")
  (Console.panelRows title (labels.zip values)).mapError .markup

def textRows (markup : String) : Except MarkupFault (List Console.Row) := do
  let s ← Console.styledText markup.toList
  let rows ← Console.Styled.rows (s.highlighted.wrap Console.terminalWidth .fold)
  return rows.map (·.crop Console.terminalWidth)

/-- The printed lines of a notice. A spinner only reads its markup. -/
def lines (n : Notice) : Except Failure (List (List Char)) :=
  match n with
  | .spinner m =>
    match Console.styledText (tagged "info" m).toList with
    | .ok _ => .ok []
    | .error f => .error (.markup f)
  | .panel title rows => (panelRows title rows).map (·.map List.flatten)
  | n =>
    match textRows (n.markup?.getD "") with
    | .ok rows => .ok (rows.map List.flatten)
    | .error f => .error (.markup f)

def printed : List Notice → Except Failure String
  | [] => .ok ""
  | n :: r =>
    match n.lines with
    | .error f => .error f
    | .ok lines =>
      (printed r).map fun rest =>
        String.ofList (lines.flatMap fun line => line ++ ['\n']) ++ rest

end Notice
end DeployOptions
