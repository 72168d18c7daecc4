import DeployOptions.CommandLine.Arguments
import DeployOptions.Yaml.Written

/-! What a call of the program does. -/
namespace DeployOptions.CommandLine

structure Outcome where
  status : Nat := 0
  output : String := ""
  errors : String := ""
  /-- What ended the call if no one expected it. -/
  crash : Option Failure := none
deriving Repr

namespace Outcome

def printed (text : String) : Outcome := { output := text }

def misused (c : Command) (f : UsageFault) : Outcome where
  status := 2
  errors := c.usage ++ "Try '" ++ c.path ++ " " ++ helpSwitch.long ++ "' for help.\n\nError: " ++
    f.message ++ "\n"

def declined (message : String) : Outcome where
  status := 1
  errors := "Error: " ++ message ++ "\n"

def failed : Outcome where
  status := 1

def crashed (f : Failure) : Outcome where
  status := 1
  crash := some f

def ofFailure : Failure → Outcome
  | .aborted => { status := 1, errors := "Aborted!\n" }
  | f => crashed f

end Outcome

def printRules (registry : Registry) (a : Arguments) : Outcome :=
  if a.has "list" then .printed (String.join (registry.types.map (· ++ "\n")))
  else
    match a.operands.head? with
    | none => .misused .rules .ruleTypeMissing
    | some type =>
      match registry.get type with
      | .error f => .misused .rules (.ruleTypeUnknown f)
      | .ok factory =>
        match factory.bundle with
        | .error f => .ofFailure f
        | .ok b =>
          let namespaceName := (a.value? "namespace").getD namespacePlaceholder
          .printed (Yaml.Written.ofValue (b.withNamespace namespaceName).manifest)

def resolveAndShow (m : Manager) (namespaceName : Value) (select : Bool)
    (t : Resolve.Target) : Run Unit := do
  let r ← Resolve.record m namespaceName select t
  Run.say (.success ("Resolved " ++ Console.highlight t.name ++ " options"))
  let summary ← Run.ofExcept r.summary
  Run.say (.panel (t.name ++ " options") summary)

def complaint (e : OptionsError) : Notice :=
  match e.kind with
  | .clusterConnection => .error ("Cluster connection failed: " ++ e.message)
  | kind => .error (kind.name ++ ": " ++ e.message)

/-- The namespace to resolve for: the one that is given, unless it is empty, or else that of the
document. -/
def namespaceFor (a : Arguments) (m : Manager) : Value :=
  match a.value? "namespace" with
  | some n => if n.isEmpty then m.namespaceName else .str n
  | none => m.namespaceName

def targetFor (a : Arguments) : Resolve.Target :=
  ((a.value? "component").bind Resolve.Target.ofName?).getD .zync

def serveOptions (m : Manager) (namespaceName : Value) (select : Bool) (t : Resolve.Target) :
    Run Outcome :=
  tryCatch (do
    resolveAndShow m namespaceName select t
    pure {}) fun
    | .options e => do
      Run.say (complaint e)
      pure .failed
    | f => throw f

def resolveOptions (a : Arguments) : StateM World Outcome := do
  let w ← get
  match w.folder.manager (a.operands.headD "") with
  | .error (.options e) => return .declined e.message
  | .error f => return .ofFailure f
  | .ok m =>
    if !(namespaceFor a m).isTruthy then return .misused .resolve .namespaceMissing
    match ← (serveOptions m (namespaceFor a m) (a.has "select") (targetFor a)).run with
    | .ok o => return o
    | .error f => return .ofFailure f

def runCommand (c : Command) (serve : Arguments → StateM World Outcome)
    (args : List String) : StateM World Outcome := do
  match Arguments.read c args with
  | .error f => return .misused c f
  | .ok a =>
    if a.has helpSwitch.word then return .printed c.help
    match a.check c (← get).folder with
    | .error (.misuse f) => return .misused c f
    | .error (.failure f) => return .ofFailure f
    | .ok () => serve a

/-- The answer to a command that there is not. A name that looks like a switch is read as one
first. -/
private def unknownCommand (name : String) (args : List String) : Outcome :=
  match Arguments.read .top args with
  | .error f => .misused .top f
  | .ok a =>
    if a.has helpSwitch.word then .printed Command.top.help
    else .misused .top (.noSuchCommand name (Text.similar name Command.top.subcommandNames))

def run (registry : Registry) (args : List String) : StateM World Outcome := do
  match Arguments.read .top args with
  | .error f => return .misused .top f
  | .ok a =>
    if a.has helpSwitch.word then return .printed Command.top.help
    match a.operands with
    | [] => return .printed (if a.has "version" then version ++ "\n" else Command.top.help)
    | name :: rest =>
      if name ∉ Command.top.subcommandNames then return unknownCommand name a.operands
      if a.has "version" then return .printed (version ++ "\n")
      if name = Command.resolve.name then runCommand .resolve resolveOptions rest
      else runCommand .rules (fun a => return printRules registry a) rest

end DeployOptions.CommandLine
