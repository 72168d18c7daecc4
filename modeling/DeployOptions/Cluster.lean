import DeployOptions.Resolve

/-! Access to a cluster through the local configuration, and resolution by component. -/
namespace DeployOptions

namespace Cluster

def noteKubeCall (c : KubeCall) : Run Unit :=
  modify fun w => { w with kubeCalls := w.kubeCalls ++ [c] }

/-- The context to work with: the one picked at the prompt, or the current one. -/
def chooseContext (select : Bool) : Run Value := do
  noteKubeCall .listContexts
  let kube := (← get).kube
  match kube.listError with
  | some reason => Run.fail (.kubeconfigInvalid reason)
  | none => pure ()
  let context ← if select then do
      noteKubeCall (.select "Select context to work with" kube.contexts)
      match kube.answer with
      | .null => do
        Run.say (.warning "Context selection cancelled.")
        throw .aborted
      | v => pure v
    else pure (.str kube.current.plain)
  Run.say (.action ("Working with " ++ Console.highlight context.plain ++ " cluster"))
  return context

def connect (select : Bool) : Run Value := do
  let context ← chooseContext select
  noteKubeCall (.load context)
  match (← get).kube.loadError with
  | some reason => Run.fail (.contextNotLoaded context.plain reason)
  | none => return context

def shown (context : Value) : String := "Cluster(context=" ++ context.shown ++ ")"

end Cluster

namespace Resolve

inductive Target
  | zync
  | apicast
  | images
deriving DecidableEq, Repr

namespace Target

def name : Target → String
  | .zync => "zync"
  | .apicast => "apicast"
  | .images => "images"

def all : List Target := [.zync, .apicast, .images]

def ofName? (s : String) : Option Target := all.find? fun t => t.name = s

end Target

/-- Resolves the options of a component. Only zync needs a cluster, for its secret. -/
def record (m : Manager) (namespaceName : Value) (select : Bool) : Target → Run Record
  | .zync => do
    let _ ← Cluster.connect select
    return .zync (← zync m namespaceName)
  | .apicast => return .apicast (← Run.ofExcept (apicast m namespaceName))
  | .images => return .images (← Run.ofExcept (images m))

end Resolve
end DeployOptions
