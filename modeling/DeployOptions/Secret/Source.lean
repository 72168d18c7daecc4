import DeployOptions.World

/-! Reading and writing the fields of the secrets in one namespace. -/
namespace DeployOptions.Secret

/-- Notes a call, and takes the fault that it meets, if any; a fault with no calls left is over. -/
def beginCall (verb : Verb) (call : Call) : Run (Option CallFault) := do
  modify fun w => { w with calls := w.calls ++ [call] }
  let w ← get
  match Assoc.get? verb w.faults with
  | none => return none
  | some (fault, none) => return some fault
  | some (fault, some times) =>
    let faults :=
      if times ≤ 1 then Assoc.erase verb w.faults
      else Assoc.put verb (fault, some (times - 1)) w.faults
    set { w with faults }
    return some fault

def reasonText (reason : Option String) : String := reason.getD "None"

/-- Reads a secret, if there is one. Only a namespace that can be a key can be looked for. -/
def read? (namespaceName : Value) (secret : String) : Run (Option (Option SecretFields)) := do
  if !namespaceName.isWritable then throw .unwritable
  Run.say (.spinner ("Reading secret " ++ namespaceName.plain ++ "/" ++ secret ++ "..."))
  match ← beginCall .read (.read namespaceName secret) with
  | none =>
    if namespaceName.isHashable then return (← get).store.secret? namespaceName secret
    else throw .unsuitableValue
  | some (.refused 404 _) => return none
  | some (.refused _ reason) =>
    Run.fail (.readRefused namespaceName secret (reasonText reason))
  | some (.unreachable reason) => Run.fail (.unreachable reason)

/-- The value of a field, if it is there. A field in a secret without data is not there. -/
def lookup (namespaceName : Value) (secret field : String) : Run (Option String) := do
  match ((← read? namespaceName secret).bind id).bind (Assoc.get? field) with
  | none => return none
  | some text => return some (← Run.ofExcept (decode field secret namespaceName text))

/-- Writes one field of a secret: into the secret that is there, or into a new one. -/
def write (present : Bool) (namespaceName : Value) (secret field value : String) : Run Unit := do
  let (verb, call, change) :=
    if present then (Verb.patch, Call.patch namespaceName secret field value, Store.putField)
    else (Verb.create, Call.create namespaceName secret field value, Store.createSecret)
  match ← beginCall verb call with
  | none =>
    modify fun w => { w with store := change namespaceName secret field value w.store }
  | some (.refused _ reason) =>
    Run.fail (.writeRefused namespaceName secret (reasonText reason))
  | some (.unreachable reason) => Run.fail (.unreachable reason)

/-- Stores the value of a field. A secret that does not exist is created with this one field. -/
def persist (namespaceName : Value) (secret field value : String) : Run Unit := do
  let existing ← read? namespaceName secret
  write existing.isSome namespaceName secret field value
  Run.say (.step ("Stored generated default for " ++ Console.highlight (secret ++ "/" ++ field)))

inductive Decision
  | keep (value : String)
  | generate
deriving DecidableEq, Repr

/-- Decides about a field from what is stored; a required one has to be there. -/
def decide (existing : Option String) (secret field : String) (required : Bool) :
    Except Failure Decision :=
  match existing with
  | some value => .ok (.keep value)
  | none => if required then .error (.options ⟨.fieldMissing secret field, []⟩) else .ok .generate

def requiredValue (namespaceName : Value) (secret field : String) : Run String := do
  match decide (← lookup namespaceName secret field) secret field true with
  | .ok (.keep value) => return value
  | .ok .generate => return ""
  | .error f => throw f

/-- The value of a field; where it is missing, `default` is stored and returned. -/
def valueOr (namespaceName : Value) (secret field default : String) : Run String := do
  match decide (← lookup namespaceName secret field) secret field false with
  | .ok (.keep value) => return value
  | .ok .generate => do
    persist namespaceName secret field default
    return default
  | .error f => throw f

def shownSource (namespaceName : Value) : String :=
  "KubernetesSecretSource(namespace=" ++ namespaceName.shown ++ ")"

end DeployOptions.Secret
