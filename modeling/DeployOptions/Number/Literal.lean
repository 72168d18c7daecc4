import DeployOptions.Number.Binary64
import DeployOptions.Text.Blank
import DeployOptions.Text.Case
import DeployOptions.Text.Digit
import DeployOptions.Text.Quoted

/-! Numbers read from text. -/
namespace DeployOptions.Literal

def digit? (c : Char) : Option Nat :=
  if c.isDigit then some (c.toNat - 48)
  else if 'a' ≤ c ∧ c ≤ 'z' then some (c.toNat - 87)
  else if 'A' ≤ c ∧ c ≤ 'Z' then some (c.toNat - 55)
  else none

def natural? (base : Nat) (s : List Char) : Option Nat :=
  if s.isEmpty then none
  else
    s.foldlM (fun n c => (digit? c).bind fun d => if d < base then some (n * base + d) else none) 0

/-- Takes off a sign; tells whether it was a minus. -/
def sign : List Char → Bool × List Char
  | '-' :: r => (true, r)
  | '+' :: r => (false, r)
  | s => (false, s)

private def baseMark? : Nat → Option Char
  | 2 => some 'b'
  | 8 => some 'o'
  | 16 => some 'x'
  | _ => none

private def withoutBaseMark (base : Nat) (s : List Char) : List Char :=
  match s with
  | '0' :: c :: r => if baseMark? base = some c.toLower then r else s
  | s => s

/-- A text with digits of all scripts as those of ASCII, all other white space as a space, and what
no number can hold as a question mark. -/
private def inAscii (s : List Char) : List Char :=
  s.map fun c =>
    if c.toNat < 0x7F then c
    else if Text.isSpace c then ' '
    else
      match Text.decimalDigit? c with
      | some d => .ofNat (48 + d)
      | none => '?'

private def isAsciiSpace (c : Char) : Bool := c = ' ' || (9 ≤ c.toNat && c.toNat ≤ 13)

private def trimmed (s : List Char) : List Char :=
  (((inAscii s).dropWhile isAsciiSpace).reverse.dropWhile isAsciiSpace).reverse

inductive IntegerFault
  | malformed (base : Nat) (text : List Char)
  | tooManyDigits (count : Nat)
deriving DecidableEq, Repr

def IntegerFault.message : IntegerFault → String
  | .malformed base text =>
    "invalid literal for int() with base " ++ toString base ++ ": " ++
      String.ofList ((Text.Quoted.quote text).take 200)
  | .tooManyDigits count =>
    "Exceeds the limit (4300 digits) for integer string conversion: value has " ++
      toString count ++ " digits; use sys.set_int_max_str_digits() to increase the limit"

def mostDigits : Nat := 4300

/-- Reads an integer: white space around it, a sign, and a mark of its base are allowed. -/
def integer (base : Nat) (s : List Char) : Except IntegerFault Int :=
  let (negative, digits) := sign (trimmed s)
  let digits := withoutBaseMark base digits
  let count := (digits.takeWhile fun c => (digit? c).any (· < base)).length
  if base = 10 ∧ mostDigits < count then .error (.tooManyDigits count)
  else
    match natural? base digits with
    | some n => .ok (if negative then -(n : Int) else n)
    | none => .error (.malformed base s)

private def exponent? : List Char → Option Int
  | [] => some 0
  | c :: r =>
    if c = 'e' ∨ c = 'E' then
      let (negative, digits) := sign r
      (natural? 10 digits).map fun n => if negative then -(n : Int) else n
    else none

private def decimal? (negative : Bool) (s : List Char) : Option Binary64 :=
  let whole := s.takeWhile Char.isDigit
  let (fraction, rest) := match s.drop whole.length with
    | '.' :: r => (r.takeWhile Char.isDigit, r.dropWhile Char.isDigit)
    | r => ([], r)
  (natural? 10 (whole ++ fraction)).bind fun digits =>
    (exponent? rest).map fun e => .ofDecimal negative digits (e - fraction.length)

def number? (s : List Char) : Option Binary64 :=
  let (negative, s) := sign (trimmed s)
  match String.ofList (Text.lower s) with
  | "inf" | "infinity" => some (.infinite negative)
  | "nan" => some .nan
  | _ => decimal? negative s

end DeployOptions.Literal
