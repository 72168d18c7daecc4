import DeployOptions.Error

/-! The desired state of a deployment, read from a resource document with defaults filled in. -/
namespace DeployOptions

/-- The resources a container asks for; what they hold is not checked. -/
structure Resources where
  limits : Value := .null
  requests : Value := .null
deriving Repr

structure Workload where
  replicas : Nat := 1
  resources : Option Resources := none
  affinity : Value := .null
  tolerations : Value := .null
deriving Repr

structure ZyncSpec where
  image : Value := .null
  postgresqlImage : Value := .null
  app : Workload := {}
  que : Workload := {}
  databaseResources : Option Resources := none
  databaseAffinity : Value := .null
  databaseTolerations : Value := .null
deriving Repr

structure ApicastSpec where
  image : Value := .null
  managementApi : Value := .str "status"
  opensslVerify : Bool := false
  responseCodes : Bool := true
  staging : Workload := {}
  production : Workload := {}
deriving Repr

def defaultAppLabel : String := "3scale-api-management"

/-- The desired state of a whole deployment. Pull secrets are given by their names. -/
structure ManagerSpec where
  appLabel : Value := .str defaultAppLabel
  resourceRequirementsEnabled : Bool := true
  pullSecrets : Option (List Value) := none
  zyncExternalDatabase : Bool := false
  zync : ZyncSpec := {}
  apicast : ApicastSpec := {}
deriving Repr

structure Manager where
  name : Value
  namespaceName : Value := .str ""
  spec : ManagerSpec := {}
deriving Repr

def Manager.hasExternalDatabase (m : Manager) : Bool := m.spec.zyncExternalDatabase

namespace Document

/-- The entries of a section; a section that is null or absent has none. -/
def section? (path : String) (v : Value) : Except Cause (List (Value × Value)) :=
  match v.opened with
  | .null => .ok []
  | .map entries => .ok entries
  | _ => .error (.notMapping path v)

def toggle? (path : String) : Value → Except Cause (Option Bool)
  | .null => .ok none
  | .bool b => .ok (some b)
  | v => .error (.notBoolean path v)

def replicas? (path : String) : Value → Except Cause (Option Nat)
  | .null => .ok none
  | .int n => if n < 0 then .error (.notReplicaCount path (.int n)) else .ok (some n.toNat)
  | v => .error (.notReplicaCount path v)

/-- Resources, if the document sets them; an empty section is set. -/
def resources? (path : String) : Value → Except Cause (Option Resources)
  | .null => .ok none
  | v => do
    let entries ← section? path v
    return some ⟨Value.get entries "limits", Value.get entries "requests"⟩

def orElse (default : Value) : Value → Value
  | .null => default
  | v => v

def workload (path : String) (v : Value) : Except Cause Workload := do
  let entries ← section? path v
  let replicas ← replicas? (path ++ ".replicas") (Value.get entries "replicas")
  let resources ← resources? (path ++ ".resources") (Value.get entries "resources")
  return {
    replicas := replicas.getD 1
    resources
    affinity := Value.get entries "affinity"
    tolerations := Value.get entries "tolerations" }

def pullSecretNames : List Value → Except Cause (List Value)
  | [] => .ok []
  | item :: r => do
    let entries ← section? "spec.imagePullSecrets[]" item
    let names ← pullSecretNames r
    return Value.get entries "name" :: names

def pullSecrets? (v : Value) : Except Cause (Option (List Value)) :=
  match v.opened with
  | .null => .ok none
  | .list items => (pullSecretNames items).map some
  | _ => .error .pullSecretsNotList

def zync (v : Value) : Except Cause ZyncSpec := do
  let entries ← section? "spec.zync" v
  let app ← workload "spec.zync.appSpec" (Value.get entries "appSpec")
  let que ← workload "spec.zync.queSpec" (Value.get entries "queSpec")
  let databaseResources ←
    resources? "spec.zync.databaseResources" (Value.get entries "databaseResources")
  return {
    image := Value.get entries "image"
    postgresqlImage := Value.get entries "postgreSQLImage"
    app, que, databaseResources
    databaseAffinity := Value.get entries "databaseAffinity"
    databaseTolerations := Value.get entries "databaseTolerations" }

def apicast (v : Value) : Except Cause ApicastSpec := do
  let entries ← section? "spec.apicast" v
  let opensslVerify ← toggle? "spec.apicast.openSSLVerify" (Value.get entries "openSSLVerify")
  let responseCodes ← toggle? "spec.apicast.responseCodes" (Value.get entries "responseCodes")
  let staging ← workload "spec.apicast.stagingSpec" (Value.get entries "stagingSpec")
  let production ← workload "spec.apicast.productionSpec" (Value.get entries "productionSpec")
  return {
    image := Value.get entries "image"
    managementApi := orElse (.str "status") (Value.get entries "apicastManagementAPI")
    opensslVerify := opensslVerify.getD false
    responseCodes := responseCodes.getD true
    staging, production }

def spec (v : Value) : Except Cause ManagerSpec := do
  let entries ← section? "spec" v
  let pullSecrets ← pullSecrets? (Value.get entries "imagePullSecrets")
  let external ← section? "spec.externalComponents" (Value.get entries "externalComponents")
  let externalZync ← section? "spec.externalComponents.zync" (Value.get external "zync")
  let enabled ← toggle? "spec.resourceRequirementsEnabled"
    (Value.get entries "resourceRequirementsEnabled")
  let database ← toggle? "spec.externalComponents.zync.database"
    (Value.get externalZync "database")
  let zync ← zync (Value.get entries "zync")
  let apicast ← apicast (Value.get entries "apicast")
  return {
    appLabel := orElse (.str defaultAppLabel) (Value.get entries "appLabel")
    resourceRequirementsEnabled := enabled.getD true
    pullSecrets
    zyncExternalDatabase := database.getD false
    zync, apicast }

end Document

namespace Manager

/-- Reads the entries of a resource document; the first section of the wrong shape ends it. -/
def ofEntries (entries : List (Value × Value)) : Except Cause Manager := do
  let metadata ← Document.section? "metadata" (Value.get entries "metadata")
  let name := Value.get metadata "name"
  if name.isTruthy then
    let spec ← Document.spec (Value.get entries "spec")
    let namespaceName := Value.get metadata "namespace"
    let namespaceName := if namespaceName.isTruthy then namespaceName else .str ""
    return { name, namespaceName, spec }
  else throw .nameMissing

def ofDocument : Value → Except Failure Manager
  | .map entries => (ofEntries entries).mapError Failure.ofCause
  | _ => .error .missingOperation

end Manager
end DeployOptions
