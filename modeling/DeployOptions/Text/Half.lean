/-! Halves of surrogate pairs. A code point that is such a half has no character; in a text it is
kept as a private character. The private characters that are used for this, U+10D800 to U+10DFFF,
are not told apart from the halves: where one of them stands in a text itself, it is written as the
half that it would stand for. -/
namespace DeployOptions.Text

def isHalf (n : Nat) : Bool := 0xD800 ≤ n && n < 0xE000

/-- How far behind a half the private character lies that stands for it. -/
def halfOffset : Nat := 0x100000

/-- The character for a code point; a half gets the one that stands for it. -/
def characterOf (n : Nat) : Char := .ofNat (if isHalf n then n + halfOffset else n)

def codeOf (c : Char) : Nat :=
  if isHalf (c.toNat - halfOffset) then c.toNat - halfOffset else c.toNat

end DeployOptions.Text
