import DeployOptions.Console.Line
import DeployOptions.Credential
import DeployOptions.Folder
import DeployOptions.Secret.Store

/-! Everything outside that an operation can read or change, as one value, and the operations over
it. What is asked of the outside is also kept, in order. -/
namespace DeployOptions

inductive Verb
  | read
  | create
  | patch
deriving DecidableEq, Repr

/-- How a call can fail: refused with a status, or never answered. -/
inductive CallFault
  | refused (status : Int) (reason : Option String)
  | unreachable (reason : String)
deriving DecidableEq, Repr

inductive Call
  | read (namespaceName : Value) (secret : String)
  | create (namespaceName : Value) (secret field value : String)
  | patch (namespaceName : Value) (secret field value : String)
deriving Repr

structure Kubeconfig where
  contexts : List Value := [.str "test"]
  current : Value := .str "test"
  answer : Value := .null
  listError : Option String := none
  loadError : Option String := none
deriving Repr

inductive KubeCall
  | listContexts
  | select (message : String) (choices : List Value)
  | load (context : Value)
deriving Repr

/-- The outside. A fault may be limited to a number of calls. -/
structure World where
  folder : Folder := []
  store : Store := []
  faults : List (Verb × CallFault × Option Nat) := []
  calls : List Call := []
  notices : List Notice := []
  kube : Kubeconfig := {}
  kubeCalls : List KubeCall := []
  picks : Picks

/-- An operation over the outside. What it has changed before it failed stays changed. -/
abbrev Run := ExceptT Failure (StateM World)

namespace Run

def fail {α : Type} (cause : Cause) : Run α := throw (.options ⟨cause, []⟩)

def ofExcept {α : Type} : Except Failure α → Run α
  | .ok a => pure a
  | .error f => throw f

def inStage {α : Type} (stage : String) (r : Run α) : Run α :=
  tryCatch r fun
    | .options e => throw (.options (e.withContext stage))
    | f => throw f

/-- Says something on the console. It counts as said even if it cannot be printed. -/
def say (n : Notice) : Run Unit := do
  modify fun w => { w with notices := w.notices ++ [n] }
  match n.lines with
  | .ok _ => pure ()
  | .error f => throw f

def randomText (length : Nat) : Run String := do
  let w ← get
  let (text, picks) := w.picks.take length
  set { w with picks }
  return text

end Run
end DeployOptions
