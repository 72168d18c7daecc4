import DeployOptions.Number.Shortest
import DeployOptions.Text.Quoted
import DeployOptions.Value.Basic

/-! The text of a value: quoted, as inside messages, and plain, as in a summary. -/
namespace DeployOptions.Value

def mostDigits : Nat := 4300

mutual

/-- Whether the forms of a value can be written: a whole number can have too many digits. -/
def isWritable : Value → Bool
  | .int n => n.natAbs < Nat.pow 10 mostDigits
  | .list items | .set items => areWritable items
  | .pair a b => isWritable a && isWritable b
  | .map entries => areEntriesWritable entries
  | .knot _ v => isWritable v
  | _ => true

def areWritable : List Value → Bool
  | [] => true
  | v :: r => isWritable v && areWritable r

def areEntriesWritable : List (Value × Value) → Bool
  | [] => true
  | (k, v) :: r => isWritable k && isWritable v && areEntriesWritable r

end

/-- What stands for a collection inside itself. -/
def ellipsis (v : Value) : String := if v.kind = "list" then "[...]" else "\x7b...\x7d"

mutual

/-- The quoted form of a value inside the knots that are being written. -/
def shownInside (inside : List Nat) : Value → String
  | .null => "None"
  | .bool b => if b then "True" else "False"
  | .int n => toString n
  | .float x => x.text
  | .str s => String.ofList (Text.Quoted.quote s.toList)
  | .bytes b => String.ofList (Text.Quoted.quoteBytes b)
  | .date d => d.shown
  | .timestamp t => t.shown
  | .list items => "[" ++ ", ".intercalate (shownItems inside items) ++ "]"
  | .pair a b => "(" ++ shownInside inside a ++ ", " ++ shownInside inside b ++ ")"
  | .map entries => "\x7b" ++ ", ".intercalate (shownEntries inside entries) ++ "\x7d"
  | .set [] => "set()"
  | .set items => "\x7b" ++ ", ".intercalate (shownItems inside items) ++ "\x7d"
  | .knot number v => if number ∈ inside then v.ellipsis else shownInside (number :: inside) v
  | .again number isMapping => (Value.again number isMapping).ellipsis

def shownItems (inside : List Nat) : List Value → List String
  | [] => []
  | v :: r => shownInside inside v :: shownItems inside r

def shownEntries (inside : List Nat) : List (Value × Value) → List String
  | [] => []
  | (k, v) :: r => (shownInside inside k ++ ": " ++ shownInside inside v) :: shownEntries inside r

end

/-- The quoted form. A collection that comes round inside itself is only hinted at there. -/
def shown (v : Value) : String := shownInside [] v

/-- The plain form: a text is itself, and dates are written out. -/
def plain : Value → String
  | .str s => s
  | .date d => d.text
  | .timestamp t => t.text " "
  | v => v.shown

end DeployOptions.Value
