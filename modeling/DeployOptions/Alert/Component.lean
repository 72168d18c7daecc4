import DeployOptions.Alert.Bundle
import DeployOptions.Error
import DeployOptions.Template
import DeployOptions.Text.Case

/-! The alerting rules of each subsystem, derived for a namespace. -/
namespace DeployOptions

inductive Component
  | zync
  | zyncQue
  | apicast
  | workloads
deriving DecidableEq, Repr

namespace Alert

private def sopBaseUrl : String :=
  "https://github.com/3scale/3scale-Operations/blob/master/sops/alerts"

def selector (conditions : String) : String := "\x7b" ++ conditions ++ "\x7d"

def shown (expression : String) : String := "\x7b\x7b " ++ expression ++ " \x7d\x7d"

def condition (template : String) (values : List (String × String)) : Except Failure String :=
  match Template.fill template.toList fun name => (Assoc.get? name values).map String.toList with
  | .ok s => .ok (String.ofList s)
  | .error (.undefined name) => .error (.undefinedName name)
  | .error (.stray line column) => .error (.strayDollar line column)

/-- A rule whose condition is still a template. -/
structure Plan where
  alert : String
  template : String
  forDuration : String
  severity : Severity
  message : String
  sop : String := ""

def Plan.rule (values : List (String × String)) (p : Plan) : Except Failure Rule :=
  (condition p.template values).map fun expr =>
    { alert := p.alert, expr, forDuration := p.forDuration, severity := p.severity,
      message := p.message, sopUrl := if p.sop.isEmpty then "" else sopBaseUrl ++ "/" ++ p.sop }

def targetDown (namespaceName job : String) : Except Failure Rule :=
  let parts := (Text.fields '-' job.toList).flatMap Text.capitalize
  Plan.rule [("namespace", namespaceName), ("job", job)] {
    alert := "Threescale" ++ String.ofList parts ++ "TargetDown"
    template := "up" ++ selector "namespace=\"$namespace\",job=~\".*/$job\"" ++ " == 0"
    forDuration := "1m"
    severity := .critical
    message := shown "$labels.job" ++ " on " ++ shown "$labels.namespace" ++ " is DOWN"
    sop := "prometheus_job_down.adoc" }

/-- Counts of waiting jobs above this are reported. -/
def jobCountThreshold : String := "250"

def jobCount (namespaceName alert jobType description : String) : Except Failure Rule :=
  Plan.rule
    [("namespace", namespaceName), ("job_type", jobType), ("threshold", jobCountThreshold)] {
    alert
    template := "max(que_jobs_scheduled_total" ++
      selector "namespace=\"$namespace\",pod=~'zync-que.*',type='$job_type'" ++
      ") by (namespace,job,exported_job) > $threshold"
    forDuration := "1m"
    severity := .warning
    message := "Zync-que " ++ shown "$labels.exported_job" ++ " has a high number of " ++
      description ++ " jobs"
    sop := "zync.adoc" }

def zyncRequestsHigh : Plan where
  alert := "ThreescaleZync5XXRequestsHigh"
  template := "sum(rate(rails_requests_total" ++
    selector ("namespace=\"$namespace\",pod=~\"zync-[a-z0-9]+-[a-z0-9]+\",status=~\"5[0-9]" ++
      selector "2" ++ "\"") ++
    "[1m])) by (namespace,job) > 50"
  forDuration := "1m"
  severity := .warning
  message := "Job " ++ shown "$labels.job" ++ " on " ++ shown "$labels.namespace" ++
    " has more than 50 HTTP 5xx requests per minute"
  sop := "zync_5xx_requests_high.adoc"

def zyncRules (namespaceName : String) : Except Failure (List Rule) := do
  let down ← targetDown namespaceName "zync"
  let requests ← zyncRequestsHigh.rule [("namespace", namespaceName)]
  return [down, requests]

def zyncQueRules (namespaceName : String) : Except Failure (List Rule) := do
  let down ← targetDown namespaceName "zync-que"
  let scheduled ←
    jobCount namespaceName "ThreescaleZyncQueScheduledJobCountHigh" "scheduled" "scheduled"
  let failed ← jobCount namespaceName "ThreescaleZyncQueFailedJobCountHigh" "failed" "failed"
  let ready ← jobCount namespaceName "ThreescaleZyncQueReadyJobCountHigh" "ready" "ready"
  return [down, scheduled, failed, ready]

def gatewayPods : String := "pod=~'apicast-production-[a-z0-9]+-[a-z0-9]+'"

def responseTimes : String := "total_response_time_seconds_bucket"

def apicastPlans : List Plan := [
  { alert := "ThreescaleApicastJobDown"
    template :=
      "up" ++ selector "job=~\".*/apicast-production\",namespace=\"$namespace\"" ++ " == 0"
    forDuration := "1m"
    severity := .critical
    message := "Job " ++ shown "$labels.job" ++ " on " ++ shown "$labels.namespace" ++
      " is DOWN" },
  { alert := "ThreescaleApicastRequestTime"
    template := "sum(rate(" ++ responseTimes ++
      selector ("namespace='$namespace', " ++ gatewayPods) ++ "[1m])) by (pod) - sum(rate(" ++
      responseTimes ++ selector ("namespace='$namespace', " ++ gatewayPods ++ ", le=\"1.0\"") ++
      "[1m])) by (pod) > 1"
    forDuration := "5m"
    severity := .warning
    message := "High number of request taking more than a second to be processed" },
  { alert := "ThreescaleApicastHttp4xxErrorRate"
    template := "sum(rate(apicast_status" ++
      selector "namespace='$namespace', status=~\"^4.\"" ++ "[1m])) / sum(rate(apicast_status" ++
      selector "namespace='$namespace'" ++ "[1m])) * 100 > 5"
    forDuration := "5m"
    severity := .warning
    message := "APIcast high HTTP 4XX error rate" },
  { alert := "ThreescaleApicastLatencyHigh"
    template := "histogram_quantile(0.99, sum(rate(" ++ responseTimes ++
      selector "namespace='$namespace'," ++ "[30m])) by (le)) > 5"
    forDuration := "30m"
    severity := .warning
    message := "APIcast latency high" },
  { alert := "ThreescaleApicastWorkerRestart"
    template := "changes(worker_process" ++
      selector "namespace='$namespace', pod=~'apicast-production.*'" ++ "[5m]) > 0"
    forDuration := "5m"
    severity := .warning
    message := "A new thread has been started" }]

def apicastRules (namespaceName : String) : Except Failure (List Rule) :=
  apicastPlans.mapM (Plan.rule [("namespace", namespaceName)])

def workloadNames : String := "(apicast-.*|backend-.*|system-.*|zync-.*)"

private def podOf : String :=
  "Pod " ++ shown "$labels.namespace" ++ "/" ++ shown "$labels.pod"

private def containerOf : String := podOf ++ " container " ++ shown "$labels.container"

def workloadPods : String := "namespace=\"$namespace\",pod=~\"$workloads\""

def liveContainers : String :=
  "namespace=\"$namespace\",container!=\"\",pod=~\"$workloads\""

def workloadControllers : String :=
  selector "namespace=\"$namespace\",replicationcontroller=~\"$workloads\""

def workloadPlans : List Plan := [
  { alert := "ThreescalePodCrashLooping"
    template := "rate(kube_pod_container_status_restarts_total" ++ selector workloadPods ++
      "[15m]) * 60 * 5 > 0"
    forDuration := "5m"
    severity := .critical
    message := podOf ++ " (" ++ shown "$labels.container" ++ ") is restarting " ++
      shown "printf \"%.2f\" $value" ++ " times / 5 minutes."
    sop := "pod_crash_looping.adoc" },
  { alert := "ThreescalePodNotReady"
    template := "sum by (namespace, pod) (max by(namespace, pod) (kube_pod_status_phase" ++
      selector (workloadPods ++ ", phase=~\"Pending|Unknown\"") ++
      ") * on(namespace, pod) group_left(owner_kind) max by(namespace, pod, owner_kind)" ++
      " (kube_pod_owner" ++ selector "namespace=\"$namespace\",owner_kind!=\"Job\"" ++ ")) > 0"
    forDuration := "5m"
    severity := .critical
    message := podOf ++ " has been in a non-ready state for longer than 5 minutes."
    sop := "pod_not_ready.adoc" },
  { alert := "ThreescaleReplicationControllerReplicasMismatch"
    template := "kube_replicationcontroller_spec_replicas " ++ workloadControllers ++
      " != kube_replicationcontroller_status_ready_replicas " ++ workloadControllers
    forDuration := "5m"
    severity := .critical
    message := "ReplicationController " ++ shown "$labels.namespace" ++ "/" ++
      shown "$labels.replicationcontroller" ++
      " has not matched the expected number of replicas for longer than 5 minutes."
    sop := "replication_controller_replicas_mismatch.adoc" },
  { alert := "ThreescaleContainerWaiting"
    template := "sum by (namespace, pod, container) (kube_pod_container_status_waiting_reason" ++
      selector workloadPods ++ ") > 0"
    forDuration := "1h"
    severity := .warning
    message := containerOf ++ " has been in waiting state for longer than 1 hour."
    sop := "container_waiting.adoc" },
  { alert := "ThreescaleContainerCPUHigh"
    template :=
      "sum(node_namespace_pod_container:container_cpu_usage_seconds_total:sum_irate" ++
      selector workloadPods ++
      ") by (namespace, container, pod) / sum(kube_pod_container_resource_limits_cpu_cores" ++
      selector workloadPods ++ ") by (namespace, container, pod) * 100 > 90"
    forDuration := "15m"
    severity := .warning
    message := containerOf ++ " has High CPU usage for longer than 15 minutes."
    sop := "container_cpu_high.adoc" },
  { alert := "ThreescaleContainerMemoryHigh"
    template := "sum(container_memory_usage_bytes" ++ selector liveContainers ++
      ") by(namespace, container, pod) / sum(kube_pod_container_resource_limits_memory_bytes" ++
      selector workloadPods ++ ") by(namespace, container, pod) * 100 > 90"
    forDuration := "15m"
    severity := .warning
    message := containerOf ++ " has High Memory usage for longer than 15 minutes."
    sop := "container_memory_high.adoc" },
  { alert := "ThreescaleContainerCPUThrottlingHigh"
    template := "sum(increase(container_cpu_cfs_throttled_periods_total" ++
      selector (liveContainers ++ " ") ++
      "[5m])) by (container, pod, namespace) / sum(increase(container_cpu_cfs_periods_total" ++
      selector workloadPods ++ "[5m])) by (container, pod, namespace) > ( 25 / 100 )"
    forDuration := "15m"
    severity := .warning
    message := shown "$value | humanizePercentage" ++ " throttling of CPU in namespace " ++
      shown "$labels.namespace" ++ " for container " ++ shown "$labels.container" ++ " in pod " ++
      shown "$labels.pod" ++ "."
    sop := "container_cpu_throttling_high.adoc" }]

def workloadRules (namespaceName : String) : Except Failure (List Rule) :=
  workloadPlans.mapM (Plan.rule [("namespace", namespaceName), ("workloads", workloadNames)])

end Alert

namespace Component

/-- The name of a component's bundle, which also ends the name of its one rule group. -/
def bundleName : Component → String
  | .zync => "zync"
  | .zyncQue => "zync-que"
  | .apicast => "apicast"
  | .workloads => "threescale-kube-state-metrics"

def rules (namespaceName : String) : Component → Except Failure (List Rule)
  | .zync => Alert.zyncRules namespaceName
  | .zyncQue => Alert.zyncQueRules namespaceName
  | .apicast => Alert.apicastRules namespaceName
  | .workloads => Alert.workloadRules namespaceName

/-- The bundle of a component: its rules in one group, under `labels` and the monitoring labels. -/
def bundle (labels : Labels) (namespaceName : String) (c : Component) : Except Failure Bundle :=
  (c.rules namespaceName).map fun rules =>
    { name := c.bundleName
      labels := Labels.merge [labels, Bundle.monitoringLabels]
      groups := [⟨namespaceName ++ "/" ++ c.bundleName ++ ".rules", rules⟩] }

end Component
end DeployOptions
