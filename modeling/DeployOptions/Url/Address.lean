import DeployOptions.Text.Percent
import DeployOptions.Text.Split

/-! Numeric host addresses, of four octets or of eight groups. -/
namespace DeployOptions.Url

private def isDigit (c : Char) : Bool := '0' ≤ c && c ≤ '9'

def decimal (digits : List Char) : Nat :=
  digits.foldl (fun n c => n * 10 + (c.toNat - 48)) 0

def isOctet (s : List Char) : Bool :=
  !s.isEmpty && s.all isDigit && s.length ≤ 3 && (s == ['0'] || s.head? != some '0') &&
    decimal s ≤ 255

def isFourOctets (s : List Char) : Bool :=
  let parts := Text.fields '.' s
  parts.length = 4 && parts.all isOctet

def isGroup (s : List Char) : Bool :=
  !s.isEmpty && s.length ≤ 4 && s.all fun c => (Text.Percent.hexValue? c).isSome

/-- The groups of an address written out, with the last two as four octets replaced by two
groups. -/
private def groups? (s : List Char) : Option (List (List Char)) :=
  let parts := Text.fields ':' s
  if parts.length < 3 then none
  else
    match parts.getLast? with
    | some last =>
      if '.' ∈ last then
        if isFourOctets last then some (parts.dropLast ++ [['0'], ['0']]) else none
      else some parts
    | none => none

/-- Eight groups, of which a run of one or more may be left out once, also at an end. -/
private def isGroupList (parts : List (List Char)) : Bool :=
  let inner := (parts.drop 1).dropLast
  if 9 < parts.length then false
  else
    match inner.filter (·.isEmpty) with
    | [] => parts.length = 8 && parts.all isGroup
    | [_] =>
      let before := parts.take ((inner.takeWhile (!·.isEmpty)).length + 1)
      let after := parts.drop (before.length + 1)
      -- An empty end belongs to the gap, which then has to lie directly beside it.
      let high := if before.head? = some [] then before.drop 1 else before
      let low := if after.getLast? = some [] then after.dropLast else after
      (high.length = before.length || high.isEmpty) && (low.length = after.length || low.isEmpty) &&
        high.length + low.length < 8 && (high ++ low).all isGroup
    | _ => false

/-- Eight groups, perhaps followed by a percent sign and a zone. -/
def isEightGroups (s : List Char) : Bool :=
  if '/' ∈ s then false
  else
    let (address, zone) := Text.cutFirst '%' s
    let zoneOk := match zone with
      | none => true
      | some z => !z.isEmpty && '%' ∉ z
    zoneOk && match groups? address with
      | some parts => isGroupList parts
      | none => false

/-- A versioned address: `v`, hexadecimal digits, a dot and at least one more character. -/
def isVersioned (s : List Char) : Bool :=
  match s with
  | 'v' :: r =>
    let digits := r.takeWhile fun c => (Text.Percent.hexValue? c).isSome
    match r.drop digits.length with
    | '.' :: _ :: _ => !digits.isEmpty
    | _ => false
  | _ => false

end DeployOptions.Url
