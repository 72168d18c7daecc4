import DeployOptions.Alert.Component
import DeployOptions.Credential
import DeployOptions.Options.Record

/-! Factories of rule bundles. The built-in ones fill options records with placeholders for
everything the rules do not depend on, and check the records like any other. -/
namespace DeployOptions

structure Factory where
  type : String
  bundle : Except Failure Bundle

namespace Factory

/-- Checks a record that a factory has built; an invalid one is the factory's own fault. -/
def validated (type : String) (record : Record) : Except Failure Record :=
  match record.validate with
  | .ok () => .ok record
  | .error (.options e) =>
    match e.kind with
    | .validation _ => .error (.invalidBundle type e)
    | _ => .error (.options e)
  | .error f => .error f

def bundleOf (c : Component) (labels : Held Labels) (namespaceName : Value) :
    Except Failure Bundle :=
  match labels with
  | .proper labels => c.bundle labels namespaceName.plain
  | _ => .error .unsuitableValue

private def placeholder : Value := .str "_"

private def commonLabels (component : String) : Labels :=
  [("app", .str defaultAppLabel), ("threescale_component", .str component)]

private def element (name : String) : Labels := [("threescale_component_element", .str name)]

def zyncOptions : ZyncOptions where
  imageTag := placeholder
  databaseImageTag := placeholder
  databasePassword := placeholder
  databaseUrl := placeholder
  secretKeyBase := placeholder
  authenticationToken := placeholder
  replicas := .int 1
  queReplicas := .int 1
  commonLabels := .proper []
  zyncLabels := .proper (commonLabels "zync" ++ element "zync")
  queLabels := .proper (commonLabels "zync" ++ element "zync-que")
  databaseLabels := .proper []
  podTemplateLabels := .proper []
  quePodTemplateLabels := .proper []
  databasePodTemplateLabels := .proper []
  pullSecrets := .proper defaultPullSecrets
  namespaceName := .str namespacePlaceholder

def apicastOptions : ApicastOptions where
  managementApi := placeholder
  opensslVerify := placeholder
  responseCodes := placeholder
  imageTag := placeholder
  stagingReplicas := .int 1
  productionReplicas := .int 1
  commonLabels := .proper (Factory.commonLabels "apicast")
  stagingLabels := .proper []
  productionLabels := .proper []
  stagingPodTemplateLabels := .proper []
  productionPodTemplateLabels := .proper []
  namespaceName := .str namespacePlaceholder

def workloadOptions : WorkloadOptions where
  commonLabels := .proper [("app", .str defaultAppLabel)]
  namespaceName := .str namespacePlaceholder

/-- A factory that checks its record before it derives the bundle. -/
private def ofRecord (c : Component) (record : Record) (labels : Held Labels)
    (namespaceName : Value) : Factory where
  type := c.bundleName
  bundle := do
    let _ ← validated c.bundleName record
    bundleOf c labels namespaceName

def ofComponent : Component → Factory
  | .zync => ofRecord .zync (.zync zyncOptions) zyncOptions.zyncLabels zyncOptions.namespaceName
  | .zyncQue =>
    ofRecord .zyncQue (.zync zyncOptions) zyncOptions.queLabels zyncOptions.namespaceName
  | .apicast =>
    ofRecord .apicast (.apicast apicastOptions) apicastOptions.commonLabels
      apicastOptions.namespaceName
  | .workloads =>
    ofRecord .workloads (.workloads workloadOptions) workloadOptions.commonLabels
      workloadOptions.namespaceName

/-- The built-in factories in their order of registration. -/
def builtIn : List Factory := [Component.zync, .zyncQue, .apicast, .workloads].map ofComponent

end Factory
end DeployOptions
