import DeployOptions.Label
import DeployOptions.Manager
import DeployOptions.Text.Case

/-! What a field of an options record holds, and the checks that all records share. -/
namespace DeployOptions

/-- A field meant for an `α`: nothing yet, an `α`, or something else that was put there by hand. -/
inductive Held (α : Type)
  | unset
  | proper (a : α)
  | stray (v : Value)
deriving Repr

def Held.isSet {α : Type} : Held α → Bool
  | .unset => false
  | _ => true

namespace Labels

def ofEntries? : List (Value × Value) → Option Labels
  | [] => some []
  | (.str k, v) :: r => (ofEntries? r).map ((k, v) :: ·)
  | _ => none

def held : Value → Held Labels
  | .null => .unset
  | .map entries =>
    match ofEntries? entries with
    | some labels => .proper labels
    | none => .stray (.map entries)
  | v => .stray v

end Labels

def Resources.held : Value → Held Resources
  | .null => .unset
  | .map entries => .proper ⟨Value.get entries "limits", Value.get entries "requests"⟩
  | v => .stray v

def heldNames : Value → Held (List Value)
  | .null => .unset
  | .list names => .proper names
  | v => .stray v

inductive Setting
  | plain (v : Value)
  | resources (r : Resources)
  | labels (l : Labels)
  | references (names : List Value)
deriving Repr

namespace Setting

private def ofHeld {α : Type} (wrap : α → Setting) : Held α → Setting
  | .unset => .plain .null
  | .proper a => wrap a
  | .stray v => .plain v

def ofResources : Held Resources → Setting := ofHeld .resources
def ofLabels : Held Labels → Setting := ofHeld .labels
def ofReferences : Held (List Value) → Setting := ofHeld .references

end Setting

def Value.isPresent : Value → Bool
  | .null => false
  | _ => true

/-- Checks a record whose required fields are listed with whether each is filled in; the error
names all that are not. -/
def checkRequired (record : String) (required : List (String × Bool)) : Except Cause Unit :=
  match (required.filter fun f => !f.2).map (·.1) with
  | [] => .ok ()
  | missing => .error (.requiredEmpty record missing)

/-- Puts a value under a key of a mapping, or at a place of a list; places before the first count
from the end. -/
def Value.assign (key value : Value) : Value → Except Failure Value
  | .map entries =>
    if key.isHashable then .ok (.map (Value.put key value entries)) else .error .unsuitableValue
  | .list items =>
    match key.integer? with
    | none => .error .unsuitableValue
    | some n =>
      let place := if n < 0 then n + items.length else n
      if 0 ≤ place ∧ place < items.length then .ok (.list (items.set place.toNat value))
      else .error .noSuchPlace
  | _ => .error .unsuitableValue

namespace Resources

def assign (kind : String) (key value : Value) (r : Resources) : Except Failure Resources :=
  match kind with
  | "limits" => (Value.assign key value r.limits).map fun limits => { r with limits }
  | "requests" => (Value.assign key value r.requests).map fun requests => { r with requests }
  | "claims" => .error .unsuitableValue
  | _ => .error .missingOperation

/-- The entries of one kind of resources as `name=quantity`, sorted by name; nothing at all where
the kind is empty. -/
def describeKind (kind : String) (values : Value) : Except Failure (List String) :=
  if values.isTruthy then
    match values.opened with
    | .map entries =>
      match Value.sortedByKey? entries with
      | some sorted =>
        if (Value.map sorted).isWritable then
          .ok [kind ++ " " ++
            ", ".intercalate (sorted.map fun (k, v) => k.plain ++ "=" ++ v.plain)]
        else .error .unwritable
      | none => .error .unsuitableValue
    | _ => .error .missingOperation
  else .ok []

def describe (r : Resources) : Except Failure String := do
  let limits ← describeKind "limits" r.limits
  let requests ← describeKind "requests" r.requests
  match limits ++ requests with
  | [] => return "unconstrained"
  | parts => return "; ".intercalate parts

def describeHeld : Held Resources → Except Failure String
  | .unset => .ok "unconstrained"
  | .proper r => r.describe
  | .stray _ => .error .missingOperation

end Resources

def joinedNames : List Value → Except Failure (List String)
  | [] => .ok []
  | .str s :: r => (joinedNames r).map (s :: ·)
  | _ => .error .unsuitableValue

def describeNames : Held (List Value) → Except Failure String
  | .proper names => (joinedNames names).map (", ".intercalate ·)
  | .unset => .error .unsuitableValue
  | .stray v =>
    match v with
    | .str _ | .map _ | .set _ | .bytes _ =>
      if v.isTruthy then .error .missingOperation else .ok ""
    | _ => .error .unsuitableValue

/-- What a summary shows: labels with values, in display order. -/
abbrev Summary := List (String × Value)

def describeCounts (counts : List (String × Value)) : Except Failure String :=
  if counts.all fun e => e.2.isWritable then
    .ok (", ".intercalate (counts.map fun e => e.1 ++ "=" ++ e.2.plain))
  else .error .unwritable

end DeployOptions
