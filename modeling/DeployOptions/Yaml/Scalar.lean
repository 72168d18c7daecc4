import DeployOptions.Number.Literal
import DeployOptions.Text.Split
import DeployOptions.Yaml.Cursor

/-! Scalars: which kind of value a text without a tag is taken for, and the value it gives. -/
namespace DeployOptions.Yaml

inductive Tag
  | null
  | bool
  | int
  | float
  | binary
  | timestamp
  | str
  | seq
  | map
  | set
  | omap
  | pairs
  | merge
  | value
  | other (name : String)
deriving DecidableEq, Repr

namespace Tag

def known : List (String × Tag) :=
  [("null", .null), ("bool", .bool), ("int", .int), ("float", .float), ("binary", .binary),
    ("timestamp", .timestamp), ("str", .str), ("seq", .seq), ("map", .map), ("set", .set),
    ("omap", .omap), ("pairs", .pairs), ("merge", .merge), ("value", .value)]

def family : String := "tag:yaml.org,2002:"

def ofName (name : String) : Tag :=
  match known.find? fun e => family ++ e.1 = name with
  | some (_, t) => t
  | none => .other name

def name (t : Tag) : String :=
  match t, known.find? (·.2 = t) with
  | .other name, _ => name
  | _, some (short, _) => family ++ short
  | _, none => ""

end Tag

namespace Scalar

private def isBinaryDigit (c : Char) : Bool := c = '0' || c = '1' || c = '_'
private def isOctalDigit (c : Char) : Bool := ('0' ≤ c && c ≤ '7') || c = '_'
private def isDecimalDigit (c : Char) : Bool := c.isDigit || c = '_'
private def isHexadecimalDigit (c : Char) : Bool := isHexDigit c || c = '_'

private def isSome (p : Char → Bool) (s : List Char) : Bool := !s.isEmpty && s.all p

/-- Pieces after colons, each of one or two digits below 60. -/
private def isSixties (s : List Char) : Bool :=
  match s with
  | [a] => a.isDigit
  | [a, b] => '0' ≤ a && a ≤ '5' && b.isDigit
  | _ => false

def isTruthWord (s : List Char) : Bool :=
  ["yes", "Yes", "YES", "no", "No", "NO", "true", "True", "TRUE", "false", "False", "FALSE", "on",
    "On", "ON", "off", "Off", "OFF"].contains (String.ofList s)

def isNullWord (s : List Char) : Bool :=
  ["", "~", "null", "Null", "NULL"].contains (String.ofList s)

/-- An integer: binary, octal, decimal or hexadecimal, or in pieces of sixty. -/
def isInteger (s : List Char) : Bool :=
  let digits := (Literal.sign s).2
  match digits with
  | '0' :: 'b' :: r => isSome isBinaryDigit r
  | '0' :: 'x' :: r => isSome isHexadecimalDigit r
  | '0' :: r => r.all isOctalDigit
  | d :: _ =>
    match Text.fields ':' digits with
    | [] => false
    | first :: rest => d.isDigit && first.all isDecimalDigit && rest.all isSixties
  | [] => false

/-- An exponent, which needs a sign, or nothing. -/
private def isExponent : List Char → Bool
  | [] => true
  | e :: s :: r => (e = 'e' || e = 'E') && (s = '+' || s = '-') && isSome Char.isDigit r
  | _ => false

private def isFraction (s : List Char) : Bool := isExponent (s.dropWhile isDecimalDigit)

/-- A number with a point, an infinity or a NaN. Only the first two may have a sign, and a number
that begins with its point may not. -/
def isNumber (s : List Char) : Bool :=
  let unsigned := (Literal.sign s).2
  let isSigned := unsigned.length < s.length
  match unsigned with
  | '.' :: r =>
    [".inf", ".Inf", ".INF"].contains (String.ofList unsigned) ||
      (!isSigned && ([".nan", ".NaN", ".NAN"].contains (String.ofList unsigned) ||
        (r.head?.any Char.isDigit && isFraction r)))
  | d :: _ =>
    d.isDigit &&
      match Text.cutFirst '.' unsigned with
      | (_, none) => false
      | (whole, some r) =>
        match Text.fields ':' whole with
        | [] => false
        | [first] => first.all isDecimalDigit && isFraction r
        | first :: rest =>
          first.all isDecimalDigit && rest.all isSixties && r.all isDecimalDigit
  | [] => false

structure Moment where
  year : List Char
  month : List Char
  day : List Char
  /-- Hour, minute, second and fraction. -/
  time : Option (List Char × List Char × List Char × List Char)
  /-- The offset in seconds. -/
  offset : Option Int

private def cutDigits (least most : Nat) (s : List Char) : Option (List Char × List Char) :=
  let digits := (s.take most).takeWhile Char.isDigit
  if least ≤ digits.length then some (digits, s.drop digits.length) else none

private def cutSign (c : Char) : List Char → Option (List Char)
  | x :: r => if x = c then some r else none
  | [] => none

private def valueOf (digits : List Char) : Nat := (Literal.natural? 10 digits).getD 0

private def offset? (s : List Char) : Option (Option Int) :=
  match s.dropWhile isBlank with
  | [] => if s.isEmpty then some none else none
  | ['Z'] => some (some 0)
  | c :: r =>
    if c = '+' ∨ c = '-' then do
      let (hours, r) ← cutDigits 1 2 r
      let (minutes, r) ← match r with
        | ':' :: r => cutDigits 2 2 r
        | r => some ([], r)
      if r.isEmpty then
        let seconds : Int := valueOf hours * 3600 + valueOf minutes * 60
        some (some (if c = '-' then -seconds else seconds))
      else none
    else none

/-- Takes a timestamp apart: a date, or a date and a time of day with an optional offset. -/
def moment? (s : List Char) : Option Moment := do
  let (year, s) ← cutDigits 4 4 s
  let (month, s) ← cutDigits 1 2 (← cutSign '-' s)
  let (day, s) ← cutDigits 1 2 (← cutSign '-' s)
  match s with
  | [] => some { year, month, day, time := none, offset := none }
  | c :: r =>
    let s ← if c = 'T' ∨ c = 't' then some r
      else if isBlank c then some (r.dropWhile isBlank)
      else none
    let (hour, s) ← cutDigits 1 2 s
    let (minute, s) ← cutDigits 2 2 (← cutSign ':' s)
    let (second, s) ← cutDigits 2 2 (← cutSign ':' s)
    let (fraction, s) := match s with
      | '.' :: r => (r.takeWhile Char.isDigit, r.dropWhile Char.isDigit)
      | s => ([], s)
    let offset ← offset? s
    some { year, month, day, time := some (hour, minute, second, fraction), offset }

/-- A timestamp; one without a time of day needs two digits for month and day. -/
def isTimestamp (s : List Char) : Bool :=
  (moment? s).any fun m => m.time.isSome || (m.month.length = 2 && m.day.length = 2)

/-- A text without the one line break that may end it. A break alone is a text of its own. -/
private def withoutLastBreak (s : List Char) : List Char :=
  if 1 < s.length ∧ s.getLast? = some '\n' then s.dropLast else s

def kind (text : List Char) : Tag :=
  let s := withoutLastBreak text
  if isTruthWord s then .bool
  else if isNumber s then .float
  else if isInteger s then .int
  else if s = ['<', '<'] then .merge
  else if isNullWord s then .null
  else if isTimestamp s then .timestamp
  else if s = ['='] then .value
  else if s = ['!'] ∨ s = ['&'] ∨ s = ['*'] then .other (Tag.family ++ "yaml")
  else .str

def truthValue (s : List Char) : Except ScalarFault Bool :=
  match String.ofList (Text.lower s) with
  | "yes" | "true" | "on" => .ok true
  | "no" | "false" | "off" => .ok false
  | word => .error (.notTruthValue word)

private def digits (base : Nat) (s : List Char) : Except ScalarFault Int :=
  (Literal.integer base s).mapError .notInteger

/-- The integer that a text stands for. Underscores count for nothing. -/
def integer (s : List Char) : Except ScalarFault Int := do
  let s := s.filter (· ≠ '_')
  if s.isEmpty then throw .empty
  let (negative, s) := Literal.sign s
  let n ← match s with
    | [] => throw .empty
    | ['0'] => pure 0
    | '0' :: 'b' :: r => digits 2 r
    | '0' :: 'x' :: r => digits 16 r
    | '0' :: _ => digits 8 s
    | _ =>
      if ':' ∈ s then do
        let parts ← (Text.fields ':' s).mapM (digits 10)
        pure (parts.foldl (fun n p => n * 60 + p) 0)
      else digits 10 s
  return if negative then -n else n

private def oneNumber (s : List Char) : Except ScalarFault Binary64 :=
  match Literal.number? s with
  | some x => .ok x
  | none => .error (.notNumber (String.ofList s))

/-- Whether a text, apart from its sign, is a NaN as it is spelled without quotes. -/
def isPlainNaN (s : List Char) : Bool :=
  (Literal.sign (Text.lower (s.filter (· ≠ '_')))).2 = ".nan".toList

/-- Adds up pieces of sixty, the last one first, each sum being rounded. The unit of a piece has to
be in the range of doubles. -/
private def sixties (sum : Binary64) (unit : Nat) :
    List Binary64 → Except ScalarFault Binary64
  | [] => .ok sum
  | p :: r =>
    match Binary64.ofInt unit with
    | .infinite _ => .error .tooLargeForDouble
    | u => sixties (Binary64.add sum (Binary64.mul p u)) (unit * 60) r

def number (s : List Char) : Except ScalarFault Binary64 := do
  let s := Text.lower (s.filter (· ≠ '_'))
  if s.isEmpty then throw .empty
  let (negative, s) := Literal.sign s
  let x ← match String.ofList s with
    | ".inf" => pure (Binary64.infinite false)
    | ".nan" => return .nan
    | _ =>
      if ':' ∈ s then do
        let parts ← (Text.fields ':' s).mapM oneNumber
        sixties (.ofInt 0) 1 parts.reverse
      else oneNumber s
  return if negative then x.negate else x

private def microseconds (fraction : List Char) : Nat :=
  let digits := fraction.take 6
  valueOf (digits ++ List.replicate (6 - digits.length) '0')

def moment (s : List Char) : Except ScalarFault (Date ⊕ Timestamp) :=
  match moment? (withoutLastBreak s) with
  | none => .error .notTimestamp
  | some m =>
    match m.time with
    | none =>
      match Date.ofNumbers (valueOf m.year) (valueOf m.month) (valueOf m.day) with
      | .ok d => .ok (.inl d)
      | .error f => .error (.noSuchMoment f)
    | some (hour, minute, second, fraction) =>
      match Timestamp.ofNumbers (valueOf m.year) (valueOf m.month) (valueOf m.day) (valueOf hour)
        (valueOf minute) (valueOf second) (microseconds fraction) m.offset with
      | .ok t => .ok (.inr t)
      | .error f => .error (.noSuchMoment f)

def binary (s : List Char) : Except Problem (List UInt8) :=
  match s.dropWhile (·.toNat < 128) with
  | [] =>
    match Text.Base64.decodeLenient s with
    | .ok bytes => .ok bytes
    | .error f => .error (.binaryUndecodable f)
  | c :: r =>
    .error (.binaryNotAscii c (s.takeWhile (·.toNat < 128)).length
      ((r.takeWhile (128 ≤ ·.toNat)).length + 1))

end Scalar
end DeployOptions.Yaml
