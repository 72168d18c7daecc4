import DeployOptions.Manager

/-! The places of a resource document that are checked, in the order in which they are, and what may
stand at each of them. -/
namespace DeployOptions

namespace Value

def entries (v : Value) : List (Value × Value) :=
  match v.opened with
  | .map entries => entries
  | _ => []

def items (v : Value) : List Value :=
  match v.opened with
  | .list items => items
  | _ => []

/-- What stands at the end of a path of keys; null where the path leads nowhere. -/
def valueAt : List String → Value → Value
  | [], v => v
  | key :: path, v => valueAt path (get v.entries key)

theorem valueAt_append (front back : List String) (v : Value) :
    v.valueAt (front ++ back) = (v.valueAt front).valueAt back := by
  induction front generalizing v with
  | nil => rfl
  | cons key front ih => exact ih _

theorem valueAt_snoc (path : List String) (key : String) (v : Value) :
    v.valueAt (path ++ [key]) = get (v.valueAt path).entries key := valueAt_append path [key] v

end Value

namespace Document

inductive Shape
  | mapping
  | name
  | list
  | items
  | toggle
  | count
deriving DecidableEq, Repr

def isSection (v : Value) : Bool :=
  match v.opened with
  | .null | .map _ => true
  | _ => false

/-- Whether a value may stand where it does. Null may stand everywhere but for a name; a truth value
is no count. -/
def Shape.accepts (v : Value) : Shape → Bool
  | .mapping => isSection v
  | .name => v.isTruthy
  | .list =>
    match v.opened with
    | .null | .list _ => true
    | _ => false
  | .items => v.items.all isSection
  | .toggle =>
    match v with
    | .null | .bool _ => true
    | _ => false
  | .count =>
    match v with
    | .null => true
    | .int n => 0 ≤ n
    | _ => false

structure Place where
  path : List String
  shape : Shape
deriving DecidableEq, Repr

namespace Place

def name (p : Place) : String :=
  match p.shape with
  | .items => ".".intercalate p.path ++ "[]"
  | _ => ".".intercalate p.path

def IsSound (doc : Value) (p : Place) : Prop := p.shape.accepts (doc.valueAt p.path) = true

instance (doc : Value) (p : Place) : Decidable (p.IsSound doc) :=
  inferInstanceAs (Decidable (_ = true))

/-- The value that is wrong at a place: of a list of sections the first one that is none. -/
def culprit (doc : Value) (p : Place) : Value :=
  match p.shape with
  | .items => ((doc.valueAt p.path).items.find? (!isSection ·)).getD .null
  | _ => doc.valueAt p.path

def fault (doc : Value) (p : Place) : Cause :=
  match p.shape with
  | .mapping | .items => .notMapping p.name (p.culprit doc)
  | .name => .nameMissing
  | .list => .pullSecretsNotList
  | .toggle => .notBoolean p.name (p.culprit doc)
  | .count => .notReplicaCount p.name (p.culprit doc)

end Place

def workloadPlaces (path : List String) : List Place :=
  [⟨path, .mapping⟩, ⟨path ++ ["replicas"], .count⟩, ⟨path ++ ["resources"], .mapping⟩]

def zyncPlaces : List Place :=
  ⟨["spec", "zync"], .mapping⟩ :: workloadPlaces ["spec", "zync", "appSpec"] ++
    workloadPlaces ["spec", "zync", "queSpec"] ++
    [⟨["spec", "zync", "databaseResources"], .mapping⟩]

def apicastPlaces : List Place :=
  [⟨["spec", "apicast"], .mapping⟩, ⟨["spec", "apicast", "openSSLVerify"], .toggle⟩,
      ⟨["spec", "apicast", "responseCodes"], .toggle⟩] ++
    workloadPlaces ["spec", "apicast", "stagingSpec"] ++
    workloadPlaces ["spec", "apicast", "productionSpec"]

def specPlaces : List Place :=
  [⟨["spec"], .mapping⟩, ⟨["spec", "imagePullSecrets"], .list⟩,
      ⟨["spec", "imagePullSecrets"], .items⟩, ⟨["spec", "externalComponents"], .mapping⟩,
      ⟨["spec", "externalComponents", "zync"], .mapping⟩,
      ⟨["spec", "resourceRequirementsEnabled"], .toggle⟩,
      ⟨["spec", "externalComponents", "zync", "database"], .toggle⟩] ++ zyncPlaces ++ apicastPlaces

def places : List Place := ⟨["metadata"], .mapping⟩ :: ⟨["metadata", "name"], .name⟩ :: specPlaces

example : places.map Place.name =
    ["metadata", "metadata.name", "spec", "spec.imagePullSecrets", "spec.imagePullSecrets[]",
      "spec.externalComponents", "spec.externalComponents.zync", "spec.resourceRequirementsEnabled",
      "spec.externalComponents.zync.database", "spec.zync", "spec.zync.appSpec",
      "spec.zync.appSpec.replicas", "spec.zync.appSpec.resources", "spec.zync.queSpec",
      "spec.zync.queSpec.replicas", "spec.zync.queSpec.resources", "spec.zync.databaseResources",
      "spec.apicast", "spec.apicast.openSSLVerify", "spec.apicast.responseCodes",
      "spec.apicast.stagingSpec", "spec.apicast.stagingSpec.replicas",
      "spec.apicast.stagingSpec.resources", "spec.apicast.productionSpec",
      "spec.apicast.productionSpec.replicas", "spec.apicast.productionSpec.resources"] := by
  decide

def firstFault (doc : Value) (l : List Place) : Option Cause :=
  (l.find? fun p => !p.shape.accepts (doc.valueAt p.path)).map (Place.fault doc)

end Document
end DeployOptions
