import DeployOptions.Options.Setting

/-! The options of the staging and production gateways. -/
namespace DeployOptions

structure ApicastOptions where
  managementApi : Value := .str ""
  opensslVerify : Value := .str ""
  responseCodes : Value := .str ""
  imageTag : Value := .str ""
  extendedMetrics : Value := .bool false
  stagingResources : Held Resources := .unset
  productionResources : Held Resources := .unset
  stagingAffinity : Value := .null
  stagingTolerations : Value := .null
  productionAffinity : Value := .null
  productionTolerations : Value := .null
  stagingReplicas : Value := .null
  productionReplicas : Value := .null
  commonLabels : Held Labels := .unset
  stagingLabels : Held Labels := .unset
  productionLabels : Held Labels := .unset
  stagingPodTemplateLabels : Held Labels := .unset
  productionPodTemplateLabels : Held Labels := .unset
  namespaceName : Value := .str ""
deriving Repr

namespace ApicastOptions

def fields (o : ApicastOptions) : List (String × Setting) :=
  [("management_api", .plain o.managementApi),
    ("openssl_verify", .plain o.opensslVerify),
    ("response_codes", .plain o.responseCodes),
    ("image_tag", .plain o.imageTag),
    ("extended_metrics", .plain o.extendedMetrics),
    ("staging_resource_requirements", .ofResources o.stagingResources),
    ("production_resource_requirements", .ofResources o.productionResources),
    ("staging_affinity", .plain o.stagingAffinity),
    ("staging_tolerations", .plain o.stagingTolerations),
    ("production_affinity", .plain o.productionAffinity),
    ("production_tolerations", .plain o.productionTolerations),
    ("staging_replicas", .plain o.stagingReplicas),
    ("production_replicas", .plain o.productionReplicas),
    ("common_labels", .ofLabels o.commonLabels),
    ("common_staging_labels", .ofLabels o.stagingLabels),
    ("common_production_labels", .ofLabels o.productionLabels),
    ("staging_pod_template_labels", .ofLabels o.stagingPodTemplateLabels),
    ("production_pod_template_labels", .ofLabels o.productionPodTemplateLabels),
    ("namespace", .plain o.namespaceName)]

/-- Puts a value into the field with an external name; there is no other field to put it into. -/
def set (name : String) (v : Value) (o : ApicastOptions) : ApicastOptions :=
  match name with
  | "management_api" => { o with managementApi := v }
  | "openssl_verify" => { o with opensslVerify := v }
  | "response_codes" => { o with responseCodes := v }
  | "image_tag" => { o with imageTag := v }
  | "extended_metrics" => { o with extendedMetrics := v }
  | "staging_resource_requirements" => { o with stagingResources := Resources.held v }
  | "production_resource_requirements" => { o with productionResources := Resources.held v }
  | "staging_affinity" => { o with stagingAffinity := v }
  | "staging_tolerations" => { o with stagingTolerations := v }
  | "production_affinity" => { o with productionAffinity := v }
  | "production_tolerations" => { o with productionTolerations := v }
  | "staging_replicas" => { o with stagingReplicas := v }
  | "production_replicas" => { o with productionReplicas := v }
  | "common_labels" => { o with commonLabels := Labels.held v }
  | "common_staging_labels" => { o with stagingLabels := Labels.held v }
  | "common_production_labels" => { o with productionLabels := Labels.held v }
  | "staging_pod_template_labels" => { o with stagingPodTemplateLabels := Labels.held v }
  | "production_pod_template_labels" => { o with productionPodTemplateLabels := Labels.held v }
  | "namespace" => { o with namespaceName := v }
  | _ => o

/-- The required fields in the order in which they are reported, each with whether it is filled
in. -/
def required (o : ApicastOptions) : List (String × Bool) :=
  [("management_api", o.managementApi.isTruthy),
    ("openssl_verify", o.opensslVerify.isTruthy),
    ("response_codes", o.responseCodes.isTruthy),
    ("image_tag", o.imageTag.isTruthy),
    ("namespace", o.namespaceName.isTruthy),
    ("staging_replicas", o.stagingReplicas.isPresent),
    ("production_replicas", o.productionReplicas.isPresent),
    ("common_labels", o.commonLabels.isSet),
    ("common_staging_labels", o.stagingLabels.isSet),
    ("common_production_labels", o.productionLabels.isSet),
    ("staging_pod_template_labels", o.stagingPodTemplateLabels.isSet),
    ("production_pod_template_labels", o.productionPodTemplateLabels.isSet)]

def validate (o : ApicastOptions) : Except Cause Unit := checkRequired "ApicastOptions" o.required

def summary (o : ApicastOptions) : Except Failure Summary := do
  let replicas ←
    describeCounts [("staging", o.stagingReplicas), ("production", o.productionReplicas)]
  let staging ← Resources.describeHeld o.stagingResources
  let production ← Resources.describeHeld o.productionResources
  return [
    ("Namespace", o.namespaceName),
    ("Image tag", o.imageTag),
    ("Management API", o.managementApi),
    ("OpenSSL verify", o.opensslVerify),
    ("Response codes", o.responseCodes),
    ("Replicas", .str replicas),
    ("Staging resources", .str staging),
    ("Production resources", .str production)]

end ApicastOptions

end DeployOptions
