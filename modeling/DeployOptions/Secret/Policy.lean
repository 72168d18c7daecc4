import DeployOptions.Secret.Source

/-! Tables of policies: how each option that a secret holds is found or made. -/
namespace DeployOptions

abbrev Resolved := List (String × String)

/-- How one option is found in a secret, and what becomes of it when it is not there. -/
structure Policy where
  option : String
  secret : String
  field : String
  default : Resolved → Run String
  isRequired : Manager → Bool := fun _ => false

namespace Policy

/-- Resolves one row of a table; a value that had to be made is stored at once. -/
def resolveRow (manager : Manager) (namespaceName : Value) (resolved : Resolved) (p : Policy) :
    Run Resolved := do
  let existing ← Secret.lookup namespaceName p.secret p.field
  match Secret.decide existing p.secret p.field (p.isRequired manager) with
  | .error f => throw f
  | .ok (.keep value) => return Assoc.put p.option value resolved
  | .ok .generate => do
    let value ← p.default resolved
    Secret.persist namespaceName p.secret p.field value
    return Assoc.put p.option value resolved

/-- Resolves the rows of a table in order, so that a default can use what earlier rows gave. -/
def resolveTable (manager : Manager) (namespaceName : Value) :
    Resolved → List Policy → Run Resolved
  | resolved, [] => return resolved
  | resolved, p :: r => do
    let resolved ← resolveRow manager namespaceName resolved p
    resolveTable manager namespaceName resolved r

def earlier (option : String) (resolved : Resolved) : Run String :=
  match Assoc.get? option resolved with
  | some value => pure value
  | none => throw (.undefinedName option)

/-- The rows of zync. The password comes first because the default URL holds it. -/
def zyncTable : List Policy := [
  { option := "database_password"
    secret := "zync"
    field := "ZYNC_DATABASE_PASSWORD"
    default := fun _ => Run.randomText Credential.passwordLength
    isRequired := Manager.hasExternalDatabase },
  { option := "secret_key_base"
    secret := "zync"
    field := "SECRET_KEY_BASE"
    default := fun _ => Run.randomText Credential.keyBaseLength },
  { option := "authentication_token"
    secret := "zync"
    field := "ZYNC_AUTHENTICATION_TOKEN"
    default := fun _ => Run.randomText Credential.tokenLength },
  { option := "database_url"
    secret := "zync"
    field := "DATABASE_URL"
    default := fun resolved => do
      return Credential.databaseUrl (← earlier "database_password" resolved)
    isRequired := Manager.hasExternalDatabase }]

end Policy
end DeployOptions
