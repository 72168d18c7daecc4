/-! The UTF-8 bytes of a text, and reading bytes back: strictly, naming the first ill-formed
sequence, or leniently, with a replacement character for each. -/
namespace DeployOptions.Text.Utf8

def encodeChar (c : Char) : List UInt8 :=
  let n := c.toNat
  if n < 0x80 then [.ofNat n]
  else if n < 0x800 then [.ofNat (0xC0 + n / 0x40), .ofNat (0x80 + n % 0x40)]
  else if n < 0x10000 then
    [.ofNat (0xE0 + n / 0x1000), .ofNat (0x80 + n / 0x40 % 0x40), .ofNat (0x80 + n % 0x40)]
  else
    [.ofNat (0xF0 + n / 0x40000), .ofNat (0x80 + n / 0x1000 % 0x40),
      .ofNat (0x80 + n / 0x40 % 0x40), .ofNat (0x80 + n % 0x40)]

def encode (s : List Char) : List UInt8 := s.flatMap encodeChar

inductive Flaw
  | start
  | continuation
  | truncated
deriving DecidableEq, Repr

/-- A piece of the bytes: a character, or the longest ill-formed sequence that could still have
begun one, with its length. -/
inductive Piece
  | char (c : Char)
  | flaw (kind : Flaw) (length : Nat)
deriving DecidableEq, Repr

def isContinuation (b : UInt8) : Bool := 0x80 ≤ b.toNat && b.toNat < 0xC0

/-- The second byte of a three-byte form: no overlong form and no surrogate. -/
def isSecondOfThree (lead b : UInt8) : Bool :=
  isContinuation b && (lead != 0xE0 || 0xA0 ≤ b.toNat) && (lead != 0xED || b.toNat < 0xA0)

/-- The second byte of a four-byte form: no overlong form and nothing above the last code point. -/
def isSecondOfFour (lead b : UInt8) : Bool :=
  isContinuation b && (lead != 0xF0 || 0x90 ≤ b.toNat) && (lead != 0xF4 || b.toNat < 0x90)

def low (b : UInt8) : Nat := b.toNat - 0x80

/-- The pieces of a sequence of bytes, in order; together they cover every byte. -/
def pieces : List UInt8 → List Piece
  | [] => []
  | a :: r =>
    let n := a.toNat
    if n < 0x80 then .char (.ofNat n) :: pieces r
    else if n < 0xC2 then .flaw .start 1 :: pieces r
    else if n < 0xE0 then
      match r with
      | [] => [.flaw .truncated 1]
      | b :: r₁ =>
        if isContinuation b then .char (.ofNat ((n - 0xC0) * 0x40 + low b)) :: pieces r₁
        else .flaw .continuation 1 :: pieces (b :: r₁)
    else if n < 0xF0 then
      match r with
      | [] => [.flaw .truncated 1]
      | b :: r₁ =>
        if isSecondOfThree a b then
          match r₁ with
          | [] => [.flaw .truncated 2]
          | c :: r₂ =>
            if isContinuation c then
              .char (.ofNat ((n - 0xE0) * 0x1000 + low b * 0x40 + low c)) :: pieces r₂
            else .flaw .continuation 2 :: pieces (c :: r₂)
        else .flaw .continuation 1 :: pieces (b :: r₁)
    else if n < 0xF5 then
      match r with
      | [] => [.flaw .truncated 1]
      | b :: r₁ =>
        if isSecondOfFour a b then
          match r₁ with
          | [] => [.flaw .truncated 2]
          | c :: r₂ =>
            if isContinuation c then
              match r₂ with
              | [] => [.flaw .truncated 3]
              | d :: r₃ =>
                if isContinuation d then
                  .char (.ofNat ((n - 0xF0) * 0x40000 + low b * 0x1000 + low c * 0x40 + low d))
                    :: pieces r₃
                else .flaw .continuation 3 :: pieces (d :: r₃)
            else .flaw .continuation 2 :: pieces (c :: r₂)
        else .flaw .continuation 1 :: pieces (b :: r₁)
    else .flaw .start 1 :: pieces r

/-- The first ill-formed sequence: its kind, the position and value of its first byte, its
length. -/
structure Fault where
  kind : Flaw
  position : Nat
  length : Nat
  byte : UInt8
deriving DecidableEq, Repr

/-- The characters of pieces without a flaw; otherwise the first flaw with its position, where the
first piece begins at `position`. -/
def ofPieces (position : Nat) : List Piece → Except (Flaw × Nat × Nat) (List Char)
  | [] => .ok []
  | .char c :: r => (ofPieces (position + (encodeChar c).length) r).map (c :: ·)
  | .flaw kind length :: _ => .error (kind, position, length)

def decode (bytes : List UInt8) : Except Fault (List Char) :=
  match ofPieces 0 (pieces bytes) with
  | .ok s => .ok s
  | .error (kind, position, length) => .error ⟨kind, position, length, bytes.getD position 0⟩

def decodeLenient (bytes : List UInt8) : List Char :=
  (pieces bytes).map fun
    | .char c => c
    | .flaw _ _ => '\uFFFD'

def hexByte (b : UInt8) : String :=
  let digit (n : Nat) : Char := if n < 10 then .ofNat (48 + n) else .ofNat (87 + n)
  String.ofList [digit (b.toNat / 16), digit (b.toNat % 16)]

def Fault.message (f : Fault) : String :=
  let reason := match f.kind with
    | .start => "invalid start byte"
    | .continuation => "invalid continuation byte"
    | .truncated => "unexpected end of data"
  if f.length = 1 then
    "'utf-8' codec can't decode byte 0x" ++ hexByte f.byte ++ " in position " ++
      toString f.position ++ ": " ++ reason
  else
    "'utf-8' codec can't decode bytes in position " ++ toString f.position ++ "-" ++
      toString (f.position + f.length - 1) ++ ": " ++ reason

end DeployOptions.Text.Utf8
