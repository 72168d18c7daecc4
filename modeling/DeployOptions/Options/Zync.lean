import DeployOptions.Options.Setting

/-! The options of zync, its que worker and its database. -/
namespace DeployOptions

structure ZyncOptions where
  imageTag : Value := .str ""
  databaseImageTag : Value := .str ""
  databasePassword : Value := .str ""
  databaseUrl : Value := .str ""
  secretKeyBase : Value := .str ""
  authenticationToken : Value := .str ""
  resources : Held Resources := .unset
  queResources : Held Resources := .unset
  databaseResources : Held Resources := .unset
  affinity : Value := .null
  tolerations : Value := .null
  queAffinity : Value := .null
  queTolerations : Value := .null
  databaseAffinity : Value := .null
  databaseTolerations : Value := .null
  replicas : Value := .null
  queReplicas : Value := .null
  commonLabels : Held Labels := .unset
  zyncLabels : Held Labels := .unset
  queLabels : Held Labels := .unset
  databaseLabels : Held Labels := .unset
  podTemplateLabels : Held Labels := .unset
  quePodTemplateLabels : Held Labels := .unset
  databasePodTemplateLabels : Held Labels := .unset
  metrics : Value := .bool false
  pullSecrets : Held (List Value) := .unset
  namespaceName : Value := .str ""
deriving Repr

namespace ZyncOptions

def fields (o : ZyncOptions) : List (String × Setting) :=
  [("image_tag", .plain o.imageTag),
    ("database_image_tag", .plain o.databaseImageTag),
    ("database_password", .plain o.databasePassword),
    ("database_url", .plain o.databaseUrl),
    ("secret_key_base", .plain o.secretKeyBase),
    ("authentication_token", .plain o.authenticationToken),
    ("container_resource_requirements", .ofResources o.resources),
    ("que_container_resource_requirements", .ofResources o.queResources),
    ("database_container_resource_requirements", .ofResources o.databaseResources),
    ("zync_affinity", .plain o.affinity),
    ("zync_tolerations", .plain o.tolerations),
    ("zync_que_affinity", .plain o.queAffinity),
    ("zync_que_tolerations", .plain o.queTolerations),
    ("zync_database_affinity", .plain o.databaseAffinity),
    ("zync_database_tolerations", .plain o.databaseTolerations),
    ("zync_replicas", .plain o.replicas),
    ("zync_que_replicas", .plain o.queReplicas),
    ("common_labels", .ofLabels o.commonLabels),
    ("common_zync_labels", .ofLabels o.zyncLabels),
    ("common_zync_que_labels", .ofLabels o.queLabels),
    ("common_zync_database_labels", .ofLabels o.databaseLabels),
    ("zync_pod_template_labels", .ofLabels o.podTemplateLabels),
    ("zync_que_pod_template_labels", .ofLabels o.quePodTemplateLabels),
    ("zync_database_pod_template_labels", .ofLabels o.databasePodTemplateLabels),
    ("zync_metrics", .plain o.metrics),
    ("zync_que_service_account_image_pull_secrets", .ofReferences o.pullSecrets),
    ("namespace", .plain o.namespaceName)]

def set (name : String) (v : Value) (o : ZyncOptions) : ZyncOptions :=
  match name with
  | "image_tag" => { o with imageTag := v }
  | "database_image_tag" => { o with databaseImageTag := v }
  | "database_password" => { o with databasePassword := v }
  | "database_url" => { o with databaseUrl := v }
  | "secret_key_base" => { o with secretKeyBase := v }
  | "authentication_token" => { o with authenticationToken := v }
  | "container_resource_requirements" => { o with resources := Resources.held v }
  | "que_container_resource_requirements" => { o with queResources := Resources.held v }
  | "database_container_resource_requirements" => { o with databaseResources := Resources.held v }
  | "zync_affinity" => { o with affinity := v }
  | "zync_tolerations" => { o with tolerations := v }
  | "zync_que_affinity" => { o with queAffinity := v }
  | "zync_que_tolerations" => { o with queTolerations := v }
  | "zync_database_affinity" => { o with databaseAffinity := v }
  | "zync_database_tolerations" => { o with databaseTolerations := v }
  | "zync_replicas" => { o with replicas := v }
  | "zync_que_replicas" => { o with queReplicas := v }
  | "common_labels" => { o with commonLabels := Labels.held v }
  | "common_zync_labels" => { o with zyncLabels := Labels.held v }
  | "common_zync_que_labels" => { o with queLabels := Labels.held v }
  | "common_zync_database_labels" => { o with databaseLabels := Labels.held v }
  | "zync_pod_template_labels" => { o with podTemplateLabels := Labels.held v }
  | "zync_que_pod_template_labels" => { o with quePodTemplateLabels := Labels.held v }
  | "zync_database_pod_template_labels" => { o with databasePodTemplateLabels := Labels.held v }
  | "zync_metrics" => { o with metrics := v }
  | "zync_que_service_account_image_pull_secrets" => { o with pullSecrets := heldNames v }
  | "namespace" => { o with namespaceName := v }
  | _ => o

def required (o : ZyncOptions) : List (String × Bool) :=
  [("image_tag", o.imageTag.isTruthy),
    ("database_image_tag", o.databaseImageTag.isTruthy),
    ("database_password", o.databasePassword.isTruthy),
    ("database_url", o.databaseUrl.isTruthy),
    ("secret_key_base", o.secretKeyBase.isTruthy),
    ("authentication_token", o.authenticationToken.isTruthy),
    ("namespace", o.namespaceName.isTruthy),
    ("zync_replicas", o.replicas.isPresent),
    ("zync_que_replicas", o.queReplicas.isPresent),
    ("common_labels", o.commonLabels.isSet),
    ("common_zync_labels", o.zyncLabels.isSet),
    ("common_zync_que_labels", o.queLabels.isSet),
    ("common_zync_database_labels", o.databaseLabels.isSet),
    ("zync_pod_template_labels", o.podTemplateLabels.isSet),
    ("zync_que_pod_template_labels", o.quePodTemplateLabels.isSet),
    ("zync_database_pod_template_labels", o.databasePodTemplateLabels.isSet),
    ("zync_que_service_account_image_pull_secrets", o.pullSecrets.isSet)]

def validate (o : ZyncOptions) : Except Cause Unit := checkRequired "ZyncOptions" o.required

/-- The summary; secret values are never part of it. -/
def summary (o : ZyncOptions) : Except Failure Summary := do
  let replicas ← describeCounts [("zync", o.replicas), ("zync-que", o.queReplicas)]
  let resources ← Resources.describeHeld o.resources
  let queResources ← Resources.describeHeld o.queResources
  let databaseResources ← Resources.describeHeld o.databaseResources
  let pullSecrets ← describeNames o.pullSecrets
  return [
    ("Namespace", o.namespaceName),
    ("Image tag", o.imageTag),
    ("Replicas", .str replicas),
    ("Zync resources", .str resources),
    ("Que resources", .str queResources),
    ("Database resources", .str databaseResources),
    ("Metrics", .str (String.ofList (Text.lower o.metrics.plain.toList))),
    ("Pull secrets", .str pullSecrets),
    ("Secret fields", .str "resolved (values hidden)")]

end ZyncOptions

end DeployOptions
