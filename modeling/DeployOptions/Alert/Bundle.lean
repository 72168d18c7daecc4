import DeployOptions.Label
import DeployOptions.Text.Split

/-! Alerting rules, grouped and bundled, and the manifest a bundle is written as. -/
namespace DeployOptions

inductive Severity
  | critical
  | warning
deriving DecidableEq, Repr

namespace Severity

def text : Severity → String
  | .critical => "critical"
  | .warning => "warning"

def ofText? (s : String) : Option Severity :=
  if s = "critical" then some .critical
  else if s = "warning" then some .warning
  else none

end Severity

/-- An alert: the condition, how long it has to hold, and what is said when it does. An empty
`sopUrl` means that there is no link to a procedure. What is only passed on may be any value. -/
structure Rule where
  alert : Value
  expr : String
  forDuration : Value
  severity : Severity
  message : Value
  sopUrl : Value := ""
deriving Repr

structure RuleGroup where
  name : String
  rules : List Rule
deriving Repr

structure Bundle where
  name : String
  labels : Labels
  groups : List RuleGroup
deriving Repr

def namespacePlaceholder : String := "__NAMESPACE__"

namespace Rule

/-- The rule with a namespace in place of the placeholder. Only the condition is changed. -/
def withNamespace (namespaceName : String) (r : Rule) : Rule :=
  { r with expr := Text.replaceString namespacePlaceholder namespaceName r.expr }

/-- The rule as a document; a link that is empty is left out. -/
def toValue (r : Rule) : Value :=
  let link := if r.sopUrl.isTruthy then [(Value.str "sop_url", r.sopUrl)] else []
  .map [
    (.str "alert", r.alert),
    (.str "annotations", .map ((.str "message", r.message) :: link)),
    (.str "expr", .str r.expr),
    (.str "for", r.forDuration),
    (.str "labels", .map [(.str "severity", .str r.severity.text)])]

end Rule

namespace RuleGroup

def withNamespace (namespaceName : String) (g : RuleGroup) : RuleGroup where
  name := Text.replaceString namespacePlaceholder namespaceName g.name
  rules := g.rules.map (Rule.withNamespace namespaceName)

def toValue (g : RuleGroup) : Value :=
  .map [(.str "name", .str g.name), (.str "rules", .list (g.rules.map Rule.toValue))]

end RuleGroup

namespace Bundle

def rules (b : Bundle) : List Rule := b.groups.flatMap (·.rules)

/-- The bundle with a namespace in place of the placeholder, in group names and conditions. -/
def withNamespace (namespaceName : String) (b : Bundle) : Bundle :=
  { b with groups := b.groups.map (RuleGroup.withNamespace namespaceName) }

def manifest (b : Bundle) : Value :=
  .map [
    (.str "apiVersion", .str "monitoring.coreos.com/v1"),
    (.str "kind", .str "PrometheusRule"),
    (.str "metadata", .map [(.str "name", .str b.name), (.str "labels", b.labels.toValue)]),
    (.str "spec", .map [(.str "groups", .list (b.groups.map RuleGroup.toValue))])]

def monitoringLabels : Labels :=
  [("prometheus", .str "application-monitoring"), ("role", .str "alert-rules")]

end Bundle
end DeployOptions
