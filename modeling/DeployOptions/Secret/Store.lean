import DeployOptions.Assoc
import DeployOptions.Error
import DeployOptions.Text.Base64

/-! The secrets of a cluster: by namespace and name, each with the encoded texts of its fields. -/
namespace DeployOptions

/-- The fields of a secret, each with its text as it is stored: Base64 of UTF-8. -/
abbrev SecretFields := List (String × String)

/-- Namespaces, their secrets, and the fields of those that have any data. A namespace that was not
given as a text is kept apart from all that were. -/
abbrev Store := List (Value × List (String × Option SecretFields))

namespace Secret

def encode (value : String) : String :=
  String.ofList (Text.Base64.encode (Text.Utf8.encode value.toList))

/-- The value that a stored text stands for. A text with other characters than ASCII is no options
error. -/
def decode (field secret : String) (namespaceName : Value) (text : String) :
    Except Failure String :=
  let fault (f : DecodeFault) : Except Failure String :=
    .error (.options ⟨.fieldUndecodable field secret namespaceName f, []⟩)
  if text.toList.any fun c => 0x80 ≤ c.toNat then .error .foreignStoredText
  else
    match Text.Base64.decode text.toList with
    | .error f => fault (.base64 f)
    | .ok bytes =>
      match Text.Utf8.decode bytes with
      | .error f => fault (.utf8 f)
      | .ok s => .ok (String.ofList s)

end Secret

namespace Store

def secretsIn (namespaceName : Value) : Store → List (String × Option SecretFields)
  | [] => []
  | (n, secrets) :: r => if n.sameKey namespaceName then secrets else secretsIn namespaceName r

def putSecrets (namespaceName : Value) (secrets : List (String × Option SecretFields)) :
    Store → Store
  | [] => [(namespaceName, secrets)]
  | (n, old) :: r =>
    if n.sameKey namespaceName then (n, secrets) :: r
    else (n, old) :: putSecrets namespaceName secrets r

/-- A secret with its fields, which are none where it has no data. -/
def secret? (namespaceName : Value) (secret : String) (s : Store) : Option (Option SecretFields) :=
  Assoc.get? secret (s.secretsIn namespaceName)

/-- The stored text of a field; a missing secret, one without data and one without the field are
all the same here. -/
def field? (namespaceName : Value) (secret field : String) (s : Store) : Option String :=
  ((s.secret? namespaceName secret).bind id).bind (Assoc.get? field)

def putSecret (namespaceName : Value) (secret : String) (fields : Option SecretFields)
    (s : Store) : Store :=
  s.putSecrets namespaceName (Assoc.put secret fields (s.secretsIn namespaceName))

def removeSecret (namespaceName : Value) (secret : String) (s : Store) : Store :=
  if s.any fun e => e.1.sameKey namespaceName then
    s.putSecrets namespaceName (Assoc.erase secret (s.secretsIn namespaceName))
  else s

def createSecret (namespaceName : Value) (secret field value : String) (s : Store) : Store :=
  s.putSecret namespaceName secret (some [(field, Secret.encode value)])

def putField (namespaceName : Value) (secret field value : String) (s : Store) : Store :=
  let fields := ((s.secret? namespaceName secret).bind id).getD []
  s.putSecret namespaceName secret (some (Assoc.put field (Secret.encode value) fields))

end Store
end DeployOptions
