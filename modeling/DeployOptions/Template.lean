/-! Texts with `$name` holes. A doubled dollar sign stands for itself; braces may enclose a name. -/
namespace DeployOptions.Template

inductive Piece
  | literal (c : Char)
  | hole (name : List Char)
  | stray
deriving DecidableEq, Repr

def isNameStart (c : Char) : Bool := c = '_' || c.isAlpha

def isNameChar (c : Char) : Bool := c = '_' || c.isAlphanum

/-- The braced name at the front of a text, after its opening brace, and how many characters it
takes up with its closing brace. -/
def bracedName? (s : List Char) : Option (List Char) :=
  match s with
  | c :: _ =>
    let name := s.takeWhile isNameChar
    if isNameStart c ∧ (s.drop name.length).head? = some '\x7d' then some name else none
  | [] => none

/-- Reads on, passing over the `skip` characters that the last piece has taken. Each piece comes
with the number of characters read when it began, its own dollar sign included. -/
def piecesFrom (position : Nat) : Nat → List Char → List (Nat × Piece)
  | _, [] => []
  | skip + 1, _ :: r => piecesFrom (position + 1) skip r
  | 0, c :: r =>
    if c ≠ '$' then (position + 1, .literal c) :: piecesFrom (position + 1) 0 r
    else
      match r with
      | [] => [(position + 1, .stray)]
      | d :: s =>
        if d = '$' then (position + 1, .literal '$') :: piecesFrom (position + 1) 1 (d :: s)
        else if isNameStart d then
          let name := (d :: s).takeWhile isNameChar
          (position + 1, .hole name) :: piecesFrom (position + 1) name.length (d :: s)
        else
          match if d = '\x7b' then bracedName? s else none with
          | some name =>
            (position + 1, .hole name) :: piecesFrom (position + 1) (name.length + 2) (d :: s)
          | none => (position + 1, .stray) :: piecesFrom (position + 1) 0 (d :: s)

def pieces (template : List Char) : List (Nat × Piece) := piecesFrom 0 0 template

inductive Fault
  | undefined (name : String)
  | stray (line column : Nat)
deriving DecidableEq, Repr

def isLineEnd (c : Char) : Bool :=
  [0x0A, 0x0B, 0x0C, 0x0D, 0x1C, 0x1D, 0x1E, 0x85, 0x2028, 0x2029].contains c.toNat

/-- The line and column of the last character of a text, both counted from 1. A carriage return
and the line feed after it end one line together. -/
def place (line column : Nat) : List Char → Nat × Nat
  | [] => (line, column)
  | '\r' :: '\n' :: r => if r.isEmpty then (line, column + 2) else place (line + 1) 0 r
  | c :: r =>
    if isLineEnd c ∧ r ≠ [] then place (line + 1) 0 r else place line (column + 1) r

/-- Fills the holes from left to right; the first hole without a value and the first dollar sign
that begins nothing end the work. Values are put in as they are. -/
def fillPieces (template : List Char) (value? : String → Option (List Char)) :
    List (Nat × Piece) → Except Fault (List Char)
  | [] => .ok []
  | (_, .literal c) :: r => (fillPieces template value? r).map (c :: ·)
  | (_, .hole name) :: r =>
    match value? (String.ofList name) with
    | some v => (fillPieces template value? r).map (v ++ ·)
    | none => .error (.undefined (String.ofList name))
  | (position, .stray) :: _ =>
    let (line, column) := place 1 0 (template.take position)
    .error (.stray line column)

def fill (template : List Char) (value? : String → Option (List Char)) :
    Except Fault (List Char) :=
  fillPieces template value? (pieces template)

end DeployOptions.Template
