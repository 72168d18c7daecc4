import DeployOptions.Options.Setting

/-! The options of the workload health rules. -/
namespace DeployOptions

structure WorkloadOptions where
  commonLabels : Held Labels := .unset
  namespaceName : Value := .str ""
deriving Repr

namespace WorkloadOptions

def fields (o : WorkloadOptions) : List (String × Setting) :=
  [("common_labels", .ofLabels o.commonLabels),
    ("namespace", .plain o.namespaceName)]

def set (name : String) (v : Value) (o : WorkloadOptions) : WorkloadOptions :=
  match name with
  | "common_labels" => { o with commonLabels := Labels.held v }
  | "namespace" => { o with namespaceName := v }
  | _ => o

def required (o : WorkloadOptions) : List (String × Bool) :=
  [("namespace", o.namespaceName.isTruthy),
    ("common_labels", o.commonLabels.isSet)]

def validate (o : WorkloadOptions) : Except Cause Unit :=
  checkRequired "KubeStateMetricsOptions" o.required

end WorkloadOptions

end DeployOptions
