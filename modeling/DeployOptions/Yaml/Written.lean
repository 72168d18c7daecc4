import DeployOptions.Value.Shown
import DeployOptions.Yaml.Scalar

/-! Writing a value as YAML: nested blocks, one entry or item a line, long texts folded. -/
namespace DeployOptions.Yaml

inductive Style
  | plain
  | singleQuoted
  | doubleQuoted
deriving DecidableEq, Repr

namespace Style

private def hasPair (p q : Char → Bool) : List Char → Bool
  | a :: b :: r => (p a && q b) || hasPair p q (b :: r)
  | _ => false

/-- Whether a character needs an escape: all but newlines and visible ASCII. -/
def needsEscape (c : Char) : Bool := c ≠ '\n' && !(' ' ≤ c && c ≤ '~')

private def endsWordCharacter (c : Char) : Bool := endsWord (some c)

/-- Whether a text would not read back as it is if it stood without quotes in a block. -/
def hasIndicator (s : List Char) : Bool :=
  let starts (mark : Char) : Bool := s.take 3 == [mark, mark, mark]
  let first := match s with
    | [] => false
    | c :: r =>
      "#,[]\x7b\x7d&*!|>'\"%@`".toList.contains c ||
        ((c = '?' || c = ':' || c = '-') && endsWord r.head?)
  starts '-' || starts '.' || first || hasPair (· = ':') endsWordCharacter s ||
    (1 < s.length && s.getLast? = some ':') || hasPair endsWordCharacter (· = '#') s

def allowsPlain (s : List Char) : Bool :=
  let atEdge (c : Option Char) : Bool := c = some ' ' || c = some '\n'
  Scalar.kind s = .str && !hasIndicator s && !atEdge s.head? && !atEdge s.getLast? &&
    !s.any fun c => c = '\n' || needsEscape c

/-- Whether single quotes keep a text: it has no escapes, and no space next to a line break. -/
def allowsSingle (s : List Char) : Bool :=
  !s.any needsEscape && !hasPair (· = ' ') (· = '\n') s && !hasPair (· = '\n') (· = ' ') s

/-- The style of a text. A key may not span lines. -/
def choose (isKey : Bool) (s : List Char) : Style :=
  if allowsPlain s then .plain
  else if allowsSingle s && !(isKey && s.contains '\n') then .singleQuoted
  else .doubleQuoted

end Style

namespace Written

def width : Nat := 80

/-- How lines go on: the column where they begin, and whether long ones are folded. -/
structure Folding where
  indent : Nat
  isOn : Bool := true

private def newLine (f : Folding) : List Char := '\n' :: List.replicate f.indent ' '

/-- A text without escapes from a column on. A line break is written twice, and a single space can
give way to one. -/
private def foldedFrom (isQuoted : Bool) (f : Folding) (before : Option Char) (column : Nat) :
    List Char → List Char
  | [] => []
  | c :: r =>
    if c = '\n' then
      (if before = some '\n' then [] else ['\n']) ++
        (if r.head? = some '\n' then ['\n'] else newLine f) ++
        foldedFrom isQuoted f (some c) f.indent r
    else if c = ' ' ∧ f.isOn ∧ width < column ∧
        before.any (· ≠ ' ') ∧ r.head?.any (· ≠ ' ') then
      newLine f ++ foldedFrom isQuoted f (some c) f.indent r
    else if isQuoted ∧ c = '\'' then '\'' :: '\'' :: foldedFrom isQuoted f (some c) (column + 2) r
    else c :: foldedFrom isQuoted f (some c) (column + 1) r

private def upperHex (width n : Nat) : List Char := (Text.Quoted.hexDigits width n).map Char.toUpper

private def escape? (c : Char) : Option (List Char) :=
  let n := c.toNat
  let letter : Option Char := match n with
    | 0 => some '0'
    | 7 => some 'a'
    | 8 => some 'b'
    | 9 => some 't'
    | 10 => some 'n'
    | 11 => some 'v'
    | 12 => some 'f'
    | 13 => some 'r'
    | 0x1B => some 'e'
    | 0x22 => some '"'
    | 0x5C => some '\\'
    | 0x85 => some 'N'
    | 0xA0 => some '_'
    | 0x2028 => some 'L'
    | 0x2029 => some 'P'
    | _ => none
  match letter with
  | some l => some ['\\', l]
  | none =>
    if !Style.needsEscape c then none
    else if n ≤ 0xFF then some ('\\' :: 'x' :: upperHex 2 n)
    else if n ≤ 0xFFFF then some ('\\' :: 'u' :: upperHex 4 n)
    else some ('\\' :: 'U' :: upperHex 8 n)

/-- A text with escapes. `held` holds what is not written yet, last character first; `column` is
where it will begin. A line ends with a backslash, before a space or where nothing is held, and a
line that begins with a space begins with a backslash. An escape may go one column further than
other characters. -/
private def escapedFrom (f : Folding) (isFirst : Bool) (column : Nat) (held : List Char) :
    List Char → List Char
  | [] => held.reverse
  | c :: r =>
    let escaped := escape? c
    let ready := match escaped with
      | some e => held.reverse ++ e
      | none => []
    let column := column + ready.length
    let held := if escaped.isSome then [] else held
    let limit := if escaped.isSome then width + 1 else width
    if f.isOn ∧ !isFirst ∧ r ≠ [] ∧ (c = ' ' ∨ held.isEmpty) ∧ limit < column + held.length then
      let next := if escaped.isSome then r.head? else some c
      let mark := if next = some ' ' then ['\\'] else []
      ready ++ held.reverse ++ '\\' :: newLine f ++ mark ++
        escapedFrom f false (f.indent + mark.length) (if escaped.isSome then [] else [c]) r
    else
      ready ++ escapedFrom f false column (if escaped.isSome then [] else c :: held) r

def text (isKey : Bool) (f : Folding) (column : Nat) (s : List Char) : List Char :=
  match Style.choose isKey s with
  | .plain => foldedFrom false f none column s
  | .singleQuoted => '\'' :: foldedFrom true f none (column + 1) s ++ ['\'']
  | .doubleQuoted => '"' :: escapedFrom f true (column + 1) [] s ++ ['"']

private def key (v : Value) : List Char := text true { indent := 0, isOn := false } 0 v.plain.toList

mutual

private def mapping (indent : Nat) : List (Value × Value) → List Char
  | [] => []
  | (k, v) :: r =>
    let name := key k ++ [':']
    let entry := name ++ content indent (indent + name.length) v
    if r.isEmpty then entry else entry ++ newLine ⟨indent, true⟩ ++ mapping indent r

private def sequence (indent : Nat) : List Value → List Char
  | [] => []
  | v :: r =>
    let item := '-' :: ' ' :: inner (indent + 2) v
    if r.isEmpty then item else item ++ newLine ⟨indent, true⟩ ++ sequence indent r

/-- What follows the colon of an entry, which ends before `column`. -/
private def content (indent column : Nat) : Value → List Char
  | .map ((k, v) :: r) => newLine ⟨indent + 2, true⟩ ++ mapping (indent + 2) ((k, v) :: r)
  | .list (v :: r) => newLine ⟨indent, true⟩ ++ sequence indent (v :: r)
  | .map [] => " \x7b\x7d".toList
  | .list [] => " []".toList
  | v => ' ' :: text false { indent := indent + 2 } (column + 1) v.plain.toList

private def inner (indent : Nat) : Value → List Char
  | .map ((k, v) :: r) => mapping indent ((k, v) :: r)
  | .list (v :: r) => sequence indent (v :: r)
  | .map [] => "\x7b\x7d".toList
  | .list [] => "[]".toList
  | v => text false { indent } indent v.plain.toList

end

/-- The YAML text of a value that is made of texts, lists and mappings. -/
def ofValue (v : Value) : String := String.ofList (inner 0 v ++ ['\n'])

end Written
end DeployOptions.Yaml
