import DeployOptions.CommandLine.Command
import DeployOptions.Text.Blank

/-! What is said about how to use a command. -/
namespace DeployOptions.CommandLine

def helpWidth : Nat := 78

def leftWidth : Nat := 30

def columnGap : Nat := 2

private def spaces (n : Nat) : String := String.ofList (List.replicate n ' ')

/-- Puts words on lines of at most `width` characters. `line` is the line so far. -/
private def fillFrom (width : Nat) (line : List Char) : List (List Char) → List (List Char)
  | [] => [line]
  | w :: r =>
    if line.length + 1 + w.length ≤ width then fillFrom width (line ++ ' ' :: w) r
    else line :: fillFrom width w r

/-- The lines of a text. One that fits on a line is kept as it is. -/
def fill (width : Nat) (s : String) : List String :=
  if s.length ≤ width then [s]
  else
    match Text.splitWords s.toList with
    | [] => []
    | w :: r => (fillFrom width w r).map String.ofList

/-- A table of two columns. What is too wide for the left one has its right side on the next
line. -/
def table (rows : List (String × String)) : String :=
  let left := min leftWidth ((rows.map (·.1.length)).foldl max 0)
  let newLine := "\n" ++ spaces (left + 2 * columnGap)
  String.join (rows.map fun (name, text) =>
    let gap := if name.length ≤ left then spaces (left + columnGap - name.length) else newLine
    spaces columnGap ++ name ++ gap ++
      newLine.intercalate (fill (helpWidth - left - 2 * columnGap) text) ++ "\n")

namespace Command

def usage (c : Command) : String :=
  let rest := match c.operand with
    | some ⟨name, .file⟩ => " " ++ name
    | some ⟨name, .text⟩ => " [" ++ name ++ "]"
    | none => " [COMMAND] [ARGS]..."
  "Usage: " ++ c.path ++ " [OPTIONS]" ++ rest ++ "\n"

def help (c : Command) : String :=
  c.usage ++ "\n" ++ spaces columnGap ++ c.summary ++ "\n\nOptions:\n" ++
    table (c.switches.map fun s => (s.usage, s.description)) ++
    (if c.subcommands.isEmpty then "" else "\nCommands:\n" ++ table c.subcommands)

end Command
end DeployOptions.CommandLine
