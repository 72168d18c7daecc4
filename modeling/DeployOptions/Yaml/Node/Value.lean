import DeployOptions.Value.Basic
import DeployOptions.Yaml.Node

/-! The values of nodes.

The nodes of a document are turned into values from the root outward, one level after the other. So
of several faults in a document the one nearest to the root shows, and of those on one level the
first. -/
namespace DeployOptions.Yaml.Node

/-- The collection that a name stands for; other nodes stay. -/
private def resolved (names : Names) : Node → Node
  | .enclosing name isMapping p =>
    match names.lookup name with
    | some (_, n) => n
    | none => .enclosing name isMapping p
  | n => n

private def unmergeable (owner : Position) (expected : String) (n : Node) : Fault :=
  .malformed (some (.mapping, some owner)) (.expectedNode expected n.kind) n.position

/-- The entries that a mapping takes over from others, as `bring` finds them, and its own ones. -/
private def splitWith (bring : Node → Except Fault (List (Node × Node))) :
    List (Node × Node) → Except Fault (List (Node × Node) × List (Node × Node))
  | [] => .ok ([], [])
  | (k, v) :: r =>
    if k.tag = .merge then do
      let taken ← bring v
      let (more, own) ← splitWith bring r
      return (taken ++ more, own)
    else do
      let (taken, own) ← splitWith bring r
      let k := if k.tag = .value then k.withTag .str else k
      return (taken, (k, v) :: own)

/-- The entries that a merge key brings: those of a mapping, or those of a list of mappings, the
last one first. A mapping whose own merge keys are just being followed brings only the rest. -/
private def brought (names : Names) :
    Nat → List Position → Position → Node → Except Fault (List (Node × Node))
  | 0, _, _, _ => .ok []
  | budget + 1, busy, owner, n =>
    let ofMapping (entries : List (Node × Node)) (p : Position) :
        Except Fault (List (Node × Node)) := do
      let bring (v : Node) : Except Fault (List (Node × Node)) :=
        if p ∈ busy then .ok [] else brought names budget (p :: busy) p v
      let (taken, own) ← splitWith bring entries
      return taken ++ own
    match resolved names n with
    | .mapping _ entries p => ofMapping entries p
    | .sequence _ items _ => do
      let parts ← items.mapM fun item =>
        match resolved names item with
        | .mapping _ entries p => ofMapping entries p
        | item => .error (unmergeable owner "a mapping for merging" item)
      return parts.reverse.flatten
    | n => .error (unmergeable owner "a mapping or list of mappings for merging" n)

mutual

/-- The text of a scalar. A mapping stands for the value under its key `=`. -/
private def scalarText : Node → Except Fault String
  | .scalar _ text _ => .ok text
  | .sequence _ _ p => .error (.malformed none (.expectedNode "a scalar node" "sequence") p)
  | .mapping _ entries p => scalarTextOf p entries
  | .enclosing name isMapping p =>
    .error (.malformed none
      (.expectedNode "a scalar node" (Node.enclosing name isMapping p).kind) p)

private def scalarTextOf (p : Position) : List (Node × Node) → Except Fault String
  | [] => .error (.malformed none (.expectedNode "a scalar node" "mapping") p)
  | (k, v) :: r => if k.tag = .value then scalarText v else scalarTextOf p r

end

private def readable {α : Type} : Except ScalarFault α → Except Fault α
  | .ok a => .ok a
  | .error f => .error (.unreadable f)

private def scalarValue (n : Node) : Except Fault Value := do
  let unknown : Fault := .malformed none (.unknownTag n.tag.name) n.position
  match n.tag with
  | .merge | .value | .other _ => throw unknown
  | _ => pure ()
  let text ← scalarText n
  let s := text.toList
  match n.tag with
  | .null => return .null
  | .bool => return .bool (← readable (Scalar.truthValue s))
  | .int => return .int (← readable (Scalar.integer s))
  | .float => return .float (← readable (Scalar.number s))
  | .timestamp =>
    match n with
    | .scalar .. =>
      match ← readable (Scalar.moment s) with
      | .inl d => return .date d
      | .inr t => return .timestamp t
    | _ => throw (.unreadable .notText)
  | .binary =>
    match Scalar.binary s with
    | .ok bytes => return .bytes bytes
    | .error problem => throw (.malformed none problem n.position)
  | _ => return .str text

mutual

private def depth : Node → Nat
  | .scalar .. | .enclosing .. => 1
  | .sequence _ items _ => depthOfItems items + 1
  | .mapping _ entries _ => depthOfEntries entries + 1

private def depthOfItems : List Node → Nat
  | [] => 0
  | n :: r => max (depth n) (depthOfItems r)

private def depthOfEntries : List (Node × Node) → Nat
  | [] => 0
  | (k, v) :: r => max (max (depth k) (depth v)) (depthOfEntries r)

end

/-- What a node gives, the fault that shows first, with its level, and the numbers that come round
in the result without their knots. -/
private structure Outcome (α : Type) where
  result : α
  fault : Option (Nat × Fault) := none
  loose : List Nat := []

namespace Outcome

/-- Of two faults, the first in the document, the one that shows first. -/
private def earlier : Option (Nat × Fault) → Option (Nat × Fault) → Option (Nat × Fault)
  | none, g => g
  | f, none => f
  | some f, some g => if g.1 < f.1 then some g else some f

private def and {α β γ : Type} (f : α → β → γ) (a : Outcome α) (b : Outcome β) : Outcome γ :=
  ⟨f a.result b.result, earlier a.fault b.fault, a.loose ++ b.loose⟩

private def mapped {α β : Type} (f : α → β) (a : Outcome α) : Outcome β :=
  ⟨f a.result, a.fault, a.loose⟩

private def failed {α : Type} (default : α) (level : Nat) (f : Fault) : Outcome α :=
  ⟨default, some (level, f), []⟩

private def all {α : Type} (l : List (Outcome α)) : Outcome (List α) :=
  l.foldr (and List.cons) ⟨[], none, []⟩

private def ofExcept {α : Type} (default : α) (level : Nat) : Except Fault α → Outcome α
  | .ok a => ⟨a, none, []⟩
  | .error f => failed default level f

/-- Makes a collection a knot if anything in it comes round. -/
private def knotted (number : Nat) (o : Outcome Value) : Outcome Value :=
  if o.loose.isEmpty then o
  else ⟨.knot number o.result, o.fault, o.loose.filter (· ≠ number)⟩

end Outcome

open Outcome

/-- An entry of a mapping. The number tells NaN keys apart: those spelled as a NaN are all the same,
and any other is one of its own. -/
private structure Entry where
  number : Nat
  key : Value
  value : Value

private def isNaN : Value → Bool
  | .float .nan => true
  | _ => false

private def keyNumber (node : Node) (key : Value) : Nat :=
  match isNaN key, node with
  | false, _ => 0
  | true, .scalar _ text p => if Scalar.isPlainNaN text.toList then 0 else p.index + 1
  | true, n => n.position.index + 1

private def Entry.hasSameKey (a b : Entry) : Bool :=
  a.number = b.number && (Value.sameKey a.key b.key || (isNaN a.key && isNaN b.key))

private def Entry.putInto (e : Entry) : List Entry → List Entry
  | [] => [e]
  | x :: r => if x.hasSameKey e then { x with value := e.value } :: r else x :: e.putInto r

private def entry (level : Nat) (owner : Position) (build : Node → Outcome Value) (k v : Node) :
    Outcome Entry :=
  let key := build k
  let checked : Outcome Value :=
    if key.result.isHashable then key
    else
      { key with
        fault := earlier key.fault
          (some (level, .malformed (some (.mapping, some owner)) .unhashableKey k.position)) }
  checked.and (fun key value => ⟨keyNumber k key, key, value⟩) (build v)

/-- The entries of a mapping, after those of others have been merged in. -/
private def mappingOf (names : Names) (budget level : Nat) (build : Node → Outcome Value)
    (n : Node) : Outcome (List (Value × Value)) :=
  match n with
  | .mapping _ entries p =>
    match splitWith (brought names budget [p] p) entries with
    | .error f => failed [] level f
    | .ok (taken, own) =>
      let all := all ((taken ++ own).map fun (k, v) => entry level p build k v)
      all.mapped fun l =>
        (l.foldl (fun m e => e.putInto m) []).map fun e => (e.key, e.value)
  | n => failed [] level (.malformed none (.expectedNode "a mapping node" n.kind) n.position)

private def sequenceOf (level : Nat) (build : Node → Outcome Value) (n : Node) :
    Outcome (List Value) :=
  match n with
  | .sequence _ items _ => all (items.map build)
  | n => failed [] level (.malformed none (.expectedNode "a sequence node" n.kind) n.position)

private def pairsOf (names : Names) (level : Nat) (reading : Reading)
    (build : Node → Outcome Value) (n : Node) : Outcome (List Value) :=
  let failure (problem : Problem) (p : Position) : Fault :=
    .malformed (some (reading, some n.position)) problem p
  match n with
  | .sequence _ items _ =>
    all (items.map fun item =>
      match resolved names item with
      | .mapping _ [(k, v)] _ => (build k).and Value.pair (build v)
      | .mapping _ entries p => failed .null level (failure (.manyItems entries.length) p)
      | item =>
        failed .null level
          (failure (.expectedNode "a mapping of length 1" item.kind) item.position))
  | n => failed [] level (failure (.expectedNode "a sequence" n.kind) n.position)

/-- The outcome for a node that is met on a level inside the collections with some numbers; what it
holds is on the next level. A collection is numbered by its place. -/
private def outcome (names : Names) : Nat → Nat → List Nat → Node → Outcome Value
  | 0, _, _, _ => ⟨.null, none, []⟩
  | budget + 1, level, inside, n =>
    let number := n.position.index
    let build := outcome names budget (level + 1) (number :: inside)
    match n with
    | .enclosing _ isMapping _ =>
      if number ∈ inside then ⟨.again number isMapping, none, [number]⟩
      else outcome names budget level inside (resolved names n)
    | n =>
      match n.tag with
      | .seq => ((sequenceOf (level + 1) build n).mapped Value.list).knotted number
      | .map => ((mappingOf names budget (level + 1) build n).mapped Value.map).knotted number
      | .set =>
        let o := mappingOf names budget (level + 1) build n
        ⟨.set (o.result.map (·.1)), o.fault, []⟩
      | .omap =>
        ((pairsOf names (level + 1) .orderedMap build n).mapped Value.list).knotted number
      | .pairs => ((pairsOf names (level + 1) .pairs build n).mapped Value.list).knotted number
      | _ => Outcome.ofExcept .null level (scalarValue n)

/-- The value of a node, among the names of its document. A way from the node inward enters each
named collection at most once more by its name, which bounds its length. -/
def toValue (names : Names) (n : Node) : Except Fault Value :=
  let deepest := names.foldl (fun d e => max d (depth e.2.2)) (depth n)
  let o := outcome names ((names.length + 1) * (deepest + 2)) 0 [] n
  match o.fault with
  | none => .ok o.result
  | some (_, f) => .error f

end DeployOptions.Yaml.Node
