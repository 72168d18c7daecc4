import DeployOptions.Console.Styled
import DeployOptions.Text.Digit
import DeployOptions.Text.Letter
import DeployOptions.Text.Pattern

/-! What is highlighted in printed text without being asked for: numbers, brackets, quoted texts,
addresses, paths, and so on. -/
namespace DeployOptions.Console

open Text (Pattern)
open Text.Pattern (one test many mark either seq)

private def isWord (c : Char) : Bool := Text.isNameCharacter c

private def isHex (c : Char) : Bool :=
  c.isDigit || ('a' ≤ c && c ≤ 'f') || ('A' ≤ c && c ≤ 'F')

private def row : List Pattern → Pattern
  | [] => .empty
  | [a] => a
  | a :: r => seq a (row r)

private def oneOf : List Pattern → Pattern
  | [] => .empty
  | [a] => a
  | a :: r => either a (oneOf r)

private def times (least most : Nat) (a : Pattern) : Pattern := many true least most a

private def optional (a : Pattern) : Pattern := times 0 1 a

private def unbounded : Nat := 1000000000

private def star (a : Pattern) : Pattern := times 0 unbounded a

private def plus (a : Pattern) : Pattern := times 1 unbounded a

private def char (c : Char) : Pattern := one (· = c)

private def among (s : String) : Pattern := one fun c => s.toList.contains c

private def word (s : String) : Pattern := row (s.toList.map char)

private def digit : Pattern := one Char.isDigit

private def anyDigit : Pattern := one fun c => (Text.decimalDigit? c).isSome

private def isBoundary (a b : Option Char) : Bool := a.any isWord != b.any isWord

private def boundary : Pattern := test isBoundary

private def notBehindWord : Pattern := test fun before _ => !before.any isWord

private def tag : Pattern :=
  row [mark (char '<'), mark (star (one fun c => isWord c || "-.:|".toList.contains c)),
    mark (star (one fun _ => true)), mark (char '>')]

private def assignment : Pattern :=
  row [mark (times 1 50 (one isWord)), char '=',
    optional (mark (row [optional (char '"'), plus (one isWord), optional (char '"')]))]

private def bracket : Pattern := mark (among "][\x7b\x7d()")

private def groups (least most count : Nat) (separator : Char) : Pattern :=
  let group := times least most (one isHex)
  row [times count count (row [group, char separator]), group]

private def hardwareAddress (long short : Nat) : Pattern :=
  mark (oneOf [groups 1 2 long '-', groups 1 2 long ':', groups 4 4 short '.'])

private def address : Pattern :=
  let part := times 1 3 digit
  let field := times 1 4 (one isHex)
  oneOf [
    mark (row [part, char '.', part, char '.', part, char '.', part]),
    mark (row [times 1 7 (row [field, char ':', optional (char ':')]), field]),
    hardwareAddress 7 3, hardwareAddress 5 2,
    mark (row [times 8 8 (one isHex), char '-', times 4 4 (one isHex), char '-',
      times 4 4 (one isHex), char '-', times 4 4 (one isHex), char '-', times 12 12 (one isHex)])]

private def constant (s : String) : Pattern := row [boundary, mark (word s), boundary]

private def exponent (greedy : Bool) : Pattern :=
  optional (row [char 'e', optional (among "-+"), many greedy 1 unbounded anyDigit])

private def decimal : Pattern := row [plus digit, optional (char '.'), star digit]

private def number : Pattern :=
  let signed := row [notBehindWord, optional (char '-'), decimal, exponent false]
  oneOf [
    mark (row [signed, optional (row [among "-+", decimal, exponent true]), char 'j']),
    mark (either (row [signed, boundary]) (row [word "0x", star (one isHex)]))]

private def path : Pattern :=
  let part := one fun c => isWord c || "-._+".toList.contains c
  row [mark (row [test fun a b => !isBoundary a b, star (row [char '/', plus part]), char '/']),
    optional (mark (star part))]

private def quoted : Pattern :=
  let closed (quote : String) : Pattern :=
    row [optional (char 'b'), word quote, many false 0 unbounded (one (· ≠ '\n')),
      test fun before _ => before ≠ some '\\', word quote]
  row [test fun before _ => !before.any fun c => c = '\\' || isWord c,
    mark (oneOf (["'''", "'", "\"\"\"", "\""].map closed))]

private def link : Pattern :=
  let part := one fun c => c.isAlphanum || "-$_+!\x60(),.?/;:&=%#~@".toList.contains c
  mark (row [oneOf (["file", "https", "http", "ws", "wss"].map word), word "://", star part])

private def searches : List Pattern := [tag, assignment, bracket,
  oneOf [address,
    row [mark (many false 0 unbounded (one fun c => isWord c || c = '.')), char '('],
    constant "True", constant "False", constant "None", mark (word "..."), number, path, quoted,
    link]]

namespace Styled

/-- Marks what is highlighted. Without joiners the pieces of a text are as wide as the text, and
it makes no difference where they end. -/
def highlighted (s : Styled) : Styled :=
  if joiner ∈ s.text then
    let found := searches.flatMap fun p => p.marks s.text
    let spans := (found.filter fun m => m.1 < m.2).map fun m => { start := m.1, stop := m.2 : Span }
    { s with spans := spans ++ s.spans }
  else s

end Styled
end DeployOptions.Console
