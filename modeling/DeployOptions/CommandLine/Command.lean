import DeployOptions.Alert.Registry
import DeployOptions.Cluster

/-! The commands that can be given, with the switches and the operand of each. -/
namespace DeployOptions.CommandLine

inductive SwitchKind
  | flag
  | text
  | choice (values : List String)
deriving DecidableEq, Repr

structure Switch where
  word : String
  letter : Option Char := none
  kind : SwitchKind := .flag
  help : String
  default : Option String := none
deriving DecidableEq, Repr

namespace Switch

def long (s : Switch) : String := "--" ++ s.word

def short? (s : Switch) : Option String := s.letter.map fun c => "-" ++ c.toString

def takesValue (s : Switch) : Bool := s.kind ≠ .flag

def shown (s : Switch) : String :=
  " / ".intercalate ((s.long :: s.short?.toList).map fun n => "'" ++ n ++ "'")

/-- The left column of the help: names, shortest first, and what follows them. -/
def usage (s : Switch) : String :=
  let names := ", ".intercalate (s.short?.toList ++ [s.long])
  match s.kind with
  | .flag => names
  | .text => names ++ " TEXT"
  | .choice values => names ++ " [" ++ "|".intercalate values ++ "]"

def description (s : Switch) : String :=
  match s.default with
  | none => s.help
  | some d => s.help ++ "  [default: " ++ d ++ "]"

end Switch

inductive OperandKind
  | file
  | text
deriving DecidableEq, Repr

structure Operand where
  name : String
  kind : OperandKind
deriving DecidableEq, Repr

/-- A command. One with subcommands takes no operand. -/
structure Command where
  name : String
  path : String
  summary : String
  switches : List Switch
  operand : Option Operand := none
  /-- The subcommands with their summaries. -/
  subcommands : List (String × String) := []

def programName : String := "apimanager-options"

def version : String := "0.1.0"

def helpSwitch : Switch where
  word := "help"
  help := "Show this message and exit."

namespace Command

def resolve : Command where
  name := "resolve"
  path := programName ++ " resolve"
  summary := "Resolve the options of one subsystem"
  switches := [
    { word := "component", letter := some 'c', kind := .choice (Resolve.Target.all.map (·.name)),
      help := "subsystem to resolve", default := some Resolve.Target.zync.name },
    { word := "namespace", letter := some 'n', kind := .text,
      help := "target namespace, defaults to the APIManager namespace" },
    { word := "select", help := "prompt for context select" },
    helpSwitch]
  operand := some ⟨"FILE", .file⟩

def rules : Command where
  name := "prometheusrules"
  path := programName ++ " prometheusrules"
  summary := "Print the PrometheusRule of a subsystem"
  switches := [
    { word := "namespace", letter := some 'n', kind := .text, help := "namespace of the rules",
      default := some namespacePlaceholder },
    { word := "list", help := "list available rule types" },
    helpSwitch]
  operand := some ⟨"RULE_TYPE", .text⟩

def top : Command where
  name := programName
  path := programName
  summary := "Resolve APIManager subsystem options and generate alerting rules"
  switches := [
    { word := "version", letter := some 'v', help := "print version" },
    { word := "debug", help := "print debug information" },
    helpSwitch]
  subcommands := [rules, resolve].map fun c => (c.name, c.summary)

def subcommandNames (c : Command) : List String := c.subcommands.map (·.1)

end Command
end DeployOptions.CommandLine
