import DeployOptions.Number.Binary64

/-! The fewest decimal digits that read back as a given double, and the text made of them. -/
namespace DeployOptions.Binary64

structure Decimal where
  digits : Nat
  exponent : Int
deriving DecidableEq, Repr

/-- The number of decimal digits before the point: the least `k` with num/den < 10^k, searched
upward from a low estimate. -/
private def pointFrom (num den : Nat) : Nat → Int → Int
  | 0, k => k
  | fuel + 1, k =>
    let below := if 0 ≤ k then num < den * Nat.pow 10 k.toNat else num * Nat.pow 10 (-k).toNat < den
    if below then k else pointFrom num den fuel (k + 1)

def pointOf (num den : Nat) : Int :=
  let estimate : Int := ((num.log2 : Int) - den.log2 - 1) * 30103 / 100000 - 1
  pointFrom num den 8 estimate

/-- The nearest point to num/den on the grid of multiples of 10^exponent that reads back as the
double, among the two neighbours of the value; of two equally near the even one. -/
private def onGrid? (x : Binary64) (num den : Nat) (exponent : Int) : Option Decimal :=
  let (n, d) :=
    if 0 ≤ exponent then (num, den * Nat.pow 10 exponent.toNat)
    else (num * Nat.pow 10 (-exponent).toNat, den)
  let q := n / d
  let r := n % d
  let reads (k : Nat) : Bool := k != 0 && ofDecimal false k exponent == x
  let nearUp : Bool := d < 2 * r || (2 * r == d && q % 2 == 1)
  let (first, second) := if nearUp then (q + 1, q) else (q, q + 1)
  if reads first then some ⟨first, exponent⟩
  else if reads second then some ⟨second, exponent⟩
  else none

private def searchFrom (x : Binary64) (num den : Nat) (point : Int) : Nat → Nat → Decimal
  | 0, count => ⟨num / den, count⟩
  | fuel + 1, count =>
    match onGrid? x num den (point - count) with
    | some d => d
    | none => searchFrom x num den point fuel (count + 1)

/-- The shortest decimal that reads back as the positive finite double with this magnitude; of
those of that length the nearest to it. -/
def shortest (significand : Nat) (exponent : Int) : Decimal :=
  let (num, den) := ratio significand exponent
  searchFrom (.finite false significand exponent) num den (pointOf num den) 17 1

private def dropZeros : Nat → List Char → List Char
  | 0, s => s
  | fuel + 1, s => if s.getLast? = some '0' ∧ s.length ≠ 1 then dropZeros fuel s.dropLast else s

/-- Positional notation where the point lies no more than four places left of the first digit and
no more than sixteen right of it, and always with a fraction; otherwise one digit, the rest as a
fraction if any, and an exponent of two digits or more. -/
private def layout (digits : List Char) (point : Int) : List Char :=
  let count : Int := digits.length
  if -4 < point ∧ point ≤ 16 then
    if point ≤ 0 then '0' :: '.' :: List.replicate (-point).toNat '0' ++ digits
    else if count ≤ point then digits ++ List.replicate (point - count).toNat '0' ++ ['.', '0']
    else digits.take point.toNat ++ '.' :: digits.drop point.toNat
  else
    let e := point - 1
    let size := (Nat.toDigits 10 e.natAbs)
    let mark := ['e', if e < 0 then '-' else '+'] ++
      List.replicate (2 - size.length) '0' ++ size
    match digits with
    | [] => mark
    | [d] => d :: mark
    | d :: r => d :: '.' :: r ++ mark

def text : Binary64 → String
  | .nan => "nan"
  | .infinite s => if s then "-inf" else "inf"
  | .finite s m e =>
    let body :=
      if m = 0 then ['0', '.', '0']
      else
        let d := shortest m e
        let all := Nat.toDigits 10 d.digits
        layout (dropZeros all.length all) (all.length + d.exponent)
    String.ofList (if s then '-' :: body else body)

end DeployOptions.Binary64
