import DeployOptions.Options.Record
import DeployOptions.Secret.Consistency
import DeployOptions.Secret.Policy

/-! Resolution: from the desired state, the stored secrets and the defaults to checked options. -/
namespace DeployOptions.Resolve

def release : String := "2.11"

def apicastImage : String :=
  "registry.redhat.io/3scale-amp2/apicast-gateway-rhel8:3scale" ++ release

def zyncImage : String := "registry.redhat.io/3scale-amp2/zync-rhel8:3scale" ++ release

def zyncDatabaseImage : String := "registry.redhat.io/rhscl/postgresql-10-rhel7:1"

def imageOptions (m : Manager) : ImageOptions where
  apicast := Document.orElse (.str apicastImage) m.spec.apicast.image
  zync := Document.orElse (.str zyncImage) m.spec.zync.image
  zyncDatabase := Document.orElse (.str zyncDatabaseImage) m.spec.zync.postgresqlImage

def images (m : Manager) : Except Failure ImageOptions :=
  match (imageOptions m).validate with
  | .ok () => .ok (imageOptions m)
  | .error cause => .error (.options ⟨cause, ["get_amp_images_options validating"]⟩)

/-- Names the stage that an options error has come from. -/
def within {α : Type} (stage : String) : Except Failure α → Except Failure α
  | .error (.options e) => .error (.options (e.withContext stage))
  | r => r

/-- The labels of a pod template; an image has to be a text by now. Bytes can be cut like a text,
but not at a character. -/
def podTemplate (component : String) (image : Value) (common : Labels) : Except Failure Labels :=
  match image with
  | .str image => .ok (Labels.podTemplate component image common)
  | .bytes _ => .error .unsuitableValue
  | _ => .error .missingOperation

def commonLabels (m : Manager) (component : String) : Labels :=
  [("app", m.spec.appLabel), ("threescale_component", .str component)]

def tierLabels (common : Labels) (tier : String) : Labels :=
  Labels.merge [common, [("threescale_component_element", .str tier)]]

/-- The resources of a container: its own in the document, else the default ones unless the
document has switched those off. -/
def containerResources (m : Manager) (own : Option Resources) (default : Resources) : Resources :=
  match own with
  | some r => r
  | none => if m.spec.resourceRequirementsEnabled then default else {}

def apicastOptions (m : Manager) (namespaceName : Value) : Except Failure ApicastOptions := do
  let spec := m.spec.apicast
  let images ← within "get_apicast_options reading image options" (images m)
  let common := commonLabels m "apicast"
  let staging := tierLabels common "staging"
  let production := tierLabels common "production"
  let stagingPod ← podTemplate "apicast-staging" images.apicast staging
  let productionPod ← podTemplate "apicast-production" images.apicast production
  return {
    managementApi := spec.managementApi
    opensslVerify := .str (if spec.opensslVerify then "true" else "false")
    responseCodes := .str (if spec.responseCodes then "true" else "false")
    imageTag := .str release
    extendedMetrics := .bool true
    stagingResources :=
      .proper (containerResources m spec.staging.resources Resources.apicastStagingDefault)
    productionResources :=
      .proper (containerResources m spec.production.resources Resources.apicastProductionDefault)
    stagingAffinity := spec.staging.affinity
    stagingTolerations := spec.staging.tolerations
    productionAffinity := spec.production.affinity
    productionTolerations := spec.production.tolerations
    stagingReplicas := .int spec.staging.replicas
    productionReplicas := .int spec.production.replicas
    commonLabels := .proper common
    stagingLabels := .proper staging
    productionLabels := .proper production
    stagingPodTemplateLabels := .proper stagingPod
    productionPodTemplateLabels := .proper productionPod
    namespaceName }

def apicast (m : Manager) (namespaceName : Value) : Except Failure ApicastOptions := do
  let options ← apicastOptions m namespaceName
  match options.validate with
  | .ok () => return options
  | .error cause => throw (.options ⟨cause, ["get_apicast_options validating"]⟩)

structure ZyncSecrets where
  databasePassword : String
  secretKeyBase : String
  authenticationToken : String
  databaseUrl : String
deriving DecidableEq, Repr

def ZyncSecrets.ofResolved (r : Resolved) : ZyncSecrets where
  databasePassword := (Assoc.get? "database_password" r).getD ""
  secretKeyBase := (Assoc.get? "secret_key_base" r).getD ""
  authenticationToken := (Assoc.get? "authentication_token" r).getD ""
  databaseUrl := (Assoc.get? "database_url" r).getD ""

/-- Finds or makes the credentials of zync, and checks that the URL and the password agree. -/
def zyncSecrets (m : Manager) (namespaceName : Value) : Run ZyncSecrets := do
  let resolved ← Policy.resolveTable m namespaceName [] Policy.zyncTable
  let secrets := ZyncSecrets.ofResolved resolved
  match Secret.checkUrlPassword secrets.databaseUrl secrets.databasePassword "zync" "DATABASE_URL"
      "ZYNC_DATABASE_PASSWORD" with
  | .ok () => return secrets
  | .error cause => Run.fail cause

def zyncOptions (m : Manager) (namespaceName : Value) (secrets : ZyncSecrets) :
    Except Failure ZyncOptions := do
  let spec := m.spec.zync
  let images ← within "get_zync_options reading image options" (images m)
  let common := commonLabels m "zync"
  let zync := tierLabels common "zync"
  let que := tierLabels common "zync-que"
  let database := tierLabels common "database"
  let zyncPod ← podTemplate "zync" images.zync zync
  let quePod ← podTemplate "zync-que" images.zync que
  let databasePod ← podTemplate "zync-database" images.zyncDatabase database
  return {
    imageTag := .str release
    databaseImageTag := .str release
    databasePassword := .str secrets.databasePassword
    databaseUrl := .str secrets.databaseUrl
    secretKeyBase := .str secrets.secretKeyBase
    authenticationToken := .str secrets.authenticationToken
    resources := .proper (containerResources m spec.app.resources Resources.zyncDefault)
    queResources := .proper (containerResources m spec.que.resources Resources.zyncQueDefault)
    databaseResources :=
      .proper (containerResources m spec.databaseResources Resources.zyncDatabaseDefault)
    affinity := spec.app.affinity
    tolerations := spec.app.tolerations
    queAffinity := spec.que.affinity
    queTolerations := spec.que.tolerations
    databaseAffinity := spec.databaseAffinity
    databaseTolerations := spec.databaseTolerations
    replicas := .int spec.app.replicas
    queReplicas := .int spec.que.replicas
    commonLabels := .proper common
    zyncLabels := .proper zync
    queLabels := .proper que
    databaseLabels := .proper database
    podTemplateLabels := .proper zyncPod
    quePodTemplateLabels := .proper quePod
    databasePodTemplateLabels := .proper databasePod
    metrics := .bool true
    pullSecrets := .proper (m.spec.pullSecrets.getD defaultPullSecrets)
    namespaceName }

def checkedZyncOptions (m : Manager) (namespaceName : Value) (secrets : ZyncSecrets) :
    Except Failure ZyncOptions := do
  let options ← zyncOptions m namespaceName secrets
  match options.validate with
  | .ok () => return options
  | .error cause => throw (.options ⟨cause, ["get_zync_options validating"]⟩)

/-- The checked zync options. Only this resolution reads and writes secrets. -/
def zync (m : Manager) (namespaceName : Value) : Run ZyncOptions := do
  let secrets ← Run.inStage "get_zync_options reading secret options"
    (zyncSecrets m namespaceName)
  Run.ofExcept (checkedZyncOptions m namespaceName secrets)

end DeployOptions.Resolve
