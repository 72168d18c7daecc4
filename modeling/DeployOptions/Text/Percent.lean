import DeployOptions.Text.Utf8

/-! Percent-encoding: any text as unreserved ASCII, and reading such a text back. -/
namespace DeployOptions.Text.Percent

def isUnreserved (c : Char) : Bool :=
  c.isAlphanum || c = '_' || c = '.' || c = '-' || c = '~'

def hexDigit (n : Nat) : Char := if n < 10 then .ofNat (48 + n) else .ofNat (55 + n)

def hexValue? (c : Char) : Option Nat :=
  let n := c.toNat
  if 48 ≤ n ∧ n ≤ 57 then some (n - 48)
  else if 65 ≤ n ∧ n ≤ 70 then some (n - 55)
  else if 97 ≤ n ∧ n ≤ 102 then some (n - 87)
  else none

/-- One byte: itself if it is an unreserved character, else an escape. -/
def encodeByte (b : UInt8) : List Char :=
  let c := Char.ofNat b.toNat
  if b.toNat < 0x80 ∧ isUnreserved c then [c]
  else ['%', hexDigit (b.toNat / 16), hexDigit (b.toNat % 16)]

def encode (s : List Char) : List Char := (Utf8.encode s).flatMap encodeByte

def hasBrokenEscape : List Char → Bool
  | [] => false
  | '%' :: r =>
    (match r with
      | a :: b :: _ => (hexValue? a).isNone || (hexValue? b).isNone
      | _ => true) || hasBrokenEscape r
  | _ :: r => hasBrokenEscape r

/-- The bytes that the ASCII characters and escapes stand for; other characters stay as they are.
A percent sign that begins no escape stands for itself. -/
def units : List Char → List (UInt8 ⊕ Char)
  | [] => []
  | '%' :: a :: b :: r =>
    match hexValue? a, hexValue? b with
    | some m, some n => .inl (.ofNat (m * 16 + n)) :: units r
    | _, _ => .inl 0x25 :: units (a :: b :: r)
  | c :: r => (if c.toNat < 0x80 then .inl (.ofNat c.toNat) else .inr c) :: units r

def readUnits (run : List UInt8) : List (UInt8 ⊕ Char) → List Char
  | [] => Utf8.decodeLenient run
  | .inl b :: r => readUnits (run ++ [b]) r
  | .inr c :: r => Utf8.decodeLenient run ++ c :: readUnits [] r

def decode (s : List Char) : List Char := readUnits [] (units s)

end DeployOptions.Text.Percent
