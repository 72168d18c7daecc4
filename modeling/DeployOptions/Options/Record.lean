import DeployOptions.Options.Apicast
import DeployOptions.Options.Images
import DeployOptions.Options.Workloads
import DeployOptions.Options.Zync

/-! Options records of every kind. -/
namespace DeployOptions

/-- An options record; `other` is something that is none. -/
inductive Record
  | zync (o : ZyncOptions)
  | apicast (o : ApicastOptions)
  | images (o : ImageOptions)
  | workloads (o : WorkloadOptions)
  | other
deriving Repr

namespace Record

def fields? : Record → Option (List (String × Setting))
  | .zync o => some o.fields
  | .apicast o => some o.fields
  | .images o => some o.fields
  | .workloads o => some o.fields
  | .other => none

def set (name : String) (v : Value) : Record → Record
  | .zync o => .zync (o.set name v)
  | .apicast o => .apicast (o.set name v)
  | .images o => .images (o.set name v)
  | .workloads o => .workloads (o.set name v)
  | .other => .other

def validate : Record → Except Failure Unit
  | .zync o => o.validate.mapError fun c => .options ⟨c, []⟩
  | .apicast o => o.validate.mapError fun c => .options ⟨c, []⟩
  | .images o => o.validate.mapError fun c => .options ⟨c, []⟩
  | .workloads o => o.validate.mapError fun c => .options ⟨c, []⟩
  | .other => .error .missingOperation

def summary : Record → Except Failure Summary
  | .zync o => o.summary
  | .apicast o => o.summary
  | .images o => .ok o.summary
  | .workloads _ => .error (.unsupportedOptions "KubeStateMetricsOptions")
  | .other => .error (.unsupportedOptions "object")

end Record
end DeployOptions
