/-! Base64 with padding: bytes written as text, and a strict reader that says why it refuses. -/
namespace DeployOptions.Text.Base64

def digit (n : Nat) : Char :=
  if n < 26 then .ofNat (65 + n)
  else if n < 52 then .ofNat (97 + (n - 26))
  else if n < 62 then .ofNat (48 + (n - 52))
  else if n = 62 then '+' else '/'

def value? (c : Char) : Option Nat :=
  let n := c.toNat
  if 65 ≤ n ∧ n ≤ 90 then some (n - 65)
  else if 97 ≤ n ∧ n ≤ 122 then some (n - 97 + 26)
  else if 48 ≤ n ∧ n ≤ 57 then some (n - 48 + 52)
  else if n = 43 then some 62
  else if n = 47 then some 63
  else none

/-- Bytes as text, three bytes to four characters, padded with `=`. -/
def encode : List UInt8 → List Char
  | [] => []
  | [a] => [digit (a.toNat / 4), digit (a.toNat % 4 * 16), '=', '=']
  | [a, b] =>
    [digit (a.toNat / 4), digit (a.toNat % 4 * 16 + b.toNat / 16), digit (b.toNat % 16 * 4), '=']
  | a :: b :: c :: r =>
    digit (a.toNat / 4) :: digit (a.toNat % 4 * 16 + b.toNat / 16) ::
      digit (b.toNat % 16 * 4 + c.toNat / 64) :: digit (c.toNat % 64) :: encode r

inductive Fault
  | leadingPadding
  | excessData
  | foreignCharacter
  | brokenPadding
  | loneCharacter (count : Nat)
  | missingPadding
deriving DecidableEq, Repr

def Fault.message : Fault → String
  | .leadingPadding => "Leading padding not allowed"
  | .excessData => "Excess data after padding"
  | .foreignCharacter => "Only base64 data is allowed"
  | .brokenPadding => "Discontinuous padding not allowed"
  | .loneCharacter count =>
    "Invalid base64-encoded string: number of data characters (" ++ toString count ++
      ") cannot be 1 more than a multiple of 4"
  | .missingPadding => "Incorrect padding"

def partBytes : List Nat → List UInt8
  | [a, b] => [.ofNat (a * 4 + b / 16)]
  | [a, b, c] => [.ofNat (a * 4 + b / 16), .ofNat (b % 16 * 16 + c / 4)]
  | _ => []

/-- Reads on, after `groups` full groups and the sextets `held` of the open one; `padding` counts
the `=` that can close the open group, and `padded` tells whether any `=` was met. A group that is
already complete may be followed by `=`, which then closes nothing. -/
def decodeFrom (groups : Nat) (held : List Nat) (padded : Bool) (padding : Nat) :
    List Char → Except Fault (List UInt8)
  | [] =>
    match held with
    | [] => .ok []
    | [_] => .error (.loneCharacter (groups * 4 + 1))
    | _ => .error .missingPadding
  | '=' :: r =>
    if 2 ≤ held.length then
      if 4 ≤ held.length + padding + 1 then
        if r.isEmpty then .ok (partBytes held) else .error .excessData
      else decodeFrom groups held true (padding + 1) r
    else decodeFrom groups held true padding r
  | x :: r =>
    match value? x with
    | none => .error .foreignCharacter
    | some d =>
      if padded then .error .brokenPadding
      else
        match held with
        | [a, b, c] =>
          (decodeFrom (groups + 1) [] padded padding r).map
            (partBytes [a, b, c] ++ UInt8.ofNat (c % 4 * 64 + d) :: ·)
        | _ => decodeFrom groups (held ++ [d]) padded padding r

/-- Reads on as `decodeFrom` does, but passes over foreign characters, lets digits follow padding,
and stops at the padding that closes a group. -/
def decodeLenientFrom (groups : Nat) (held : List Nat) (padding : Nat) :
    List Char → Except Fault (List UInt8)
  | [] =>
    match held with
    | [] => .ok []
    | [_] => .error (.loneCharacter (groups * 4 + 1))
    | _ => .error .missingPadding
  | x :: r =>
    if x = '=' then
      if 2 ≤ held.length then
        if 4 ≤ held.length + padding + 1 then .ok (partBytes held)
        else decodeLenientFrom groups held (padding + 1) r
      else decodeLenientFrom groups held padding r
    else
      match value? x with
      | none => decodeLenientFrom groups held padding r
      | some d =>
        match held with
        | [a, b, c] =>
          (decodeLenientFrom (groups + 1) [] 0 r).map
            (partBytes [a, b, c] ++ UInt8.ofNat (c % 4 * 64 + d) :: ·)
        | _ => decodeLenientFrom groups (held ++ [d]) 0 r

def decodeLenient (s : List Char) : Except Fault (List UInt8) := decodeLenientFrom 0 [] 0 s

def decode (s : List Char) : Except Fault (List UInt8) :=
  if s.head? = some '=' then .error .leadingPadding
  else decodeFrom 0 [] false 0 s

end DeployOptions.Text.Base64
