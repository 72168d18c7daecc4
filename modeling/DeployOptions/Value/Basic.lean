import DeployOptions.Calendar
import DeployOptions.Number.Binary64

/-! The values a resource document can hold. -/
namespace DeployOptions

/-- A value of a document. A mapping keeps its entries in the order in which their keys first
appeared, and no two of its keys are the same in the sense of `Value.sameKey`. A collection that
holds itself, directly or further inside, is a `knot`; where it comes round there is `again` with
the same number, and all collections on the way are knots with numbers of their own. -/
inductive Value
  | null
  | bool (b : Bool)
  | int (n : Int)
  | float (x : Binary64)
  | str (s : String)
  | bytes (b : List UInt8)
  | date (d : Date)
  | timestamp (t : Timestamp)
  | list (items : List Value)
  | pair (first second : Value)
  | map (entries : List (Value × Value))
  | set (items : List Value)
  | knot (number : Nat) (collection : Value)
  | again (number : Nat) (isMapping : Bool)
deriving Repr

namespace Value

instance : Inhabited Value := ⟨.null⟩

instance : Coe String Value := ⟨.str⟩

def kind : Value → String
  | .null => "NoneType"
  | .bool _ => "bool"
  | .int _ => "int"
  | .float _ => "float"
  | .str _ => "str"
  | .bytes _ => "bytes"
  | .date _ => "date"
  | .timestamp _ => "datetime"
  | .list _ => "list"
  | .pair .. => "tuple"
  | .map _ => "dict"
  | .set _ => "set"
  | .knot _ v => v.kind
  | .again _ isMapping => if isMapping then "dict" else "list"

/-- Whether a value counts as set: null, false, zero and everything empty do not. -/
def isTruthy : Value → Bool
  | .null => false
  | .bool b => b
  | .int n => n != 0
  | .float x => !x.isZero
  | .str s => !s.isEmpty
  | .bytes b => !b.isEmpty
  | .list items => !items.isEmpty
  | .map entries => !entries.isEmpty
  | .set items => !items.isEmpty
  | .knot _ v => v.isTruthy
  | .date _ | .timestamp _ | .pair .. | .again .. => true

/-- The whole number that a value is, where truth values count as 0 and 1. -/
def integer? : Value → Option Int
  | .bool b => some (if b then 1 else 0)
  | .int n => some n
  | _ => none

/-- Where two values stand in the order of their kind; none if they have no common order, and also
if one of them is not a number. -/
def order? : Value → Value → Option Ordering
  | .str a, .str b => some (compare a b)
  | .bytes a, .bytes b => some (compare (a.map UInt8.toNat) (b.map UInt8.toNat))
  | .date a, .date b => some (compare a.ordinal b.ordinal)
  | .timestamp a, .timestamp b =>
    if a.offset.isSome = b.offset.isSome then some (compare a.instant b.instant) else none
  | .float a, .float b => a.compare b
  | .float a, b => (integer? b).bind fun n => (a.compareInt n).map Ordering.swap
  | a, .float b => (integer? a).bind fun n => b.compareInt n
  | a, b => (integer? a).bind fun m => (integer? b).map fun n => compare m n

/-- Whether two values can be compared at all; a NaN can, with any number. -/
def areComparable (a b : Value) : Bool :=
  let number (v : Value) : Bool := match v with
    | .bool _ | .int _ | .float _ => true
    | _ => false
  (number a && number b) || (order? a b).isSome

/-- Whether two values are the same as keys of a mapping: numbers by what they are worth, all else
by kind and content. A NaN is the same as nothing. -/
def sameKey : Value → Value → Bool
  | .null, .null => true
  | a, b => order? a b == some .eq

def isHashable : Value → Bool
  | .list _ | .map _ | .set _ | .knot .. | .again .. => false
  | .pair a b => a.isHashable && b.isHashable
  | _ => true

mutual

/-- The value with `whole` wherever a number comes round. -/
def unrolled (number : Nat) (whole : Value) : Value → Value
  | .again n isMapping => if n = number then whole else .again n isMapping
  | .knot n v => if n = number then .knot n v else .knot n (unrolled number whole v)
  | .list items => .list (unrolledItems number whole items)
  | .pair a b => .pair (unrolled number whole a) (unrolled number whole b)
  | .map entries => .map (unrolledEntries number whole entries)
  | v => v

def unrolledItems (number : Nat) (whole : Value) : List Value → List Value
  | [] => []
  | v :: r => unrolled number whole v :: unrolledItems number whole r

def unrolledEntries (number : Nat) (whole : Value) : List (Value × Value) → List (Value × Value)
  | [] => []
  | (k, v) :: r => (k, unrolled number whole v) :: unrolledEntries number whole r

end

/-- A knot as the collection that it is; all other values stay. -/
def opened : Value → Value
  | .knot number v => v.unrolled number (.knot number v)
  | v => v

def lookup? (key : String) : List (Value × Value) → Option Value
  | [] => none
  | (.str k, v) :: r => if k = key then some v else lookup? key r
  | _ :: r => lookup? key r

def get (entries : List (Value × Value)) (key : String) : Value := (lookup? key entries).getD .null

/-- Stores a value: under a key that is present in its old place, else at the end. -/
def put (key value : Value) : List (Value × Value) → List (Value × Value)
  | [] => [(key, value)]
  | (k, v) :: r => if sameKey k key then (k, value) :: r else (k, v) :: put key value r

/-- Whether a key comes before another one; a NaN comes before nothing, and nothing before it. -/
private def isBefore (a b : Value × Value) : Bool := order? a.1 b.1 == some .lt

/-- How many entries go on as the first two begin: falling, or else not falling. -/
private def runLength (falling : Bool) : List (Value × Value) → Nat
  | a :: b :: r => if isBefore b a = falling then runLength falling (b :: r) + 1 else 1
  | l => l.length

/-- The place of an entry among sorted ones, found by halving. The budget bounds the halvings. -/
private def placeOf (e : Value × Value) (sorted : Array (Value × Value)) :
    Nat → Nat → Nat → Nat
  | 0, low, _ => low
  | budget + 1, low, high =>
    if low < high then
      let middle := low + (high - low) / 2
      if (sorted[middle]?).any (isBefore e) then placeOf e sorted budget low middle
      else placeOf e sorted budget (middle + 1) high
    else low

/-- Puts an entry into its place, behind those it is not before. -/
def insertSorted (sorted : List (Value × Value)) (e : Value × Value) :
    List (Value × Value) :=
  let k := placeOf e sorted.toArray (sorted.length + 1) 0 sorted.length
  sorted.take k ++ e :: sorted.drop k

/-- The entries sorted by key; none if two keys have no common order. The run at the front is taken
as it is, or turned round if it falls, and each further entry is put into its place. So a NaN, which
has no place of its own, does not move. -/
def sortedByKey? (entries : List (Value × Value)) : Option (List (Value × Value)) :=
  match entries with
  | [] => some []
  | [e] => some [e]
  | e :: f :: r =>
    if (f :: r).all fun g => areComparable e.1 g.1 then
      let falling := isBefore f e
      let n := runLength falling entries
      let run := if falling then (entries.take n).reverse else entries.take n
      some ((entries.drop n).foldl insertSorted run)
    else none

end Value
end DeployOptions
