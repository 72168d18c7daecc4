import DeployOptions.Alert.Factory

/-! The registry of rule factories. It only ever grows, and once frozen it does not change. -/
namespace DeployOptions

/-- Factories in their order of registration, no two of the same type. -/
structure Registry where
  factories : List Factory := []
  frozen : Bool := false

namespace Registry

def types (r : Registry) : List String := r.factories.map (·.type)

def find? (type : String) (r : Registry) : Option Factory :=
  r.factories.find? fun f => f.type = type

/-- Looks a factory up; the error names the types there are. -/
def get (type : String) (r : Registry) : Except Failure Factory :=
  match r.find? type with
  | some f => .ok f
  | none => .error (.unknownFactory type r.types)

/-- Adds the factory that `constructor` gives. A frozen registry does not even look at it. -/
def register (constructor : Except Failure Factory) (r : Registry) :
    Except Failure (Factory × Registry) :=
  if r.frozen then .error .registryFrozen
  else
    match constructor with
    | .error e => .error e
    | .ok f =>
      if f.type ∈ r.types then .error (.alreadyRegistered f.type)
      else .ok (f, { r with factories := r.factories ++ [f] })

def freeze (r : Registry) : Registry := { r with frozen := true }

def size (r : Registry) : Nat := r.factories.length

def shown (r : Registry) : String :=
  "RuleFactoryRegistry(types=" ++ (Value.list (r.types.map .str)).shown ++ ", frozen=" ++
    (Value.bool r.frozen).shown ++ ")"

def builtIn : Registry where
  factories := Factory.builtIn
  frozen := true

end Registry
end DeployOptions
