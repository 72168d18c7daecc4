import DeployOptions.Error

/-! The agreement of a database URL with the password that is stored beside it. -/
namespace DeployOptions.Secret

/-- Checks that a connection URL holds the given password. The names serve only to say what is
wrong. A URL without user-info and one whose user-info has no password are the same. -/
def checkUrlPassword (url password : String) (secret urlField passwordField : String) :
    Except Cause Unit :=
  match Url.authority url.toList with
  | .error f => .error (.urlMalformed urlField secret f)
  | .ok authority =>
    match Url.checkPort authority with
    | .error f => .error (.urlMalformed urlField secret f)
    | .ok () =>
      if Text.Percent.hasBrokenEscape ((Url.userInfo? authority).getD []) then
        .error (.urlBrokenEscape urlField secret)
      else
        match Url.password? authority with
        | none => .error (.urlWithoutPassword urlField secret)
        | some embedded =>
          if Text.Percent.decode embedded = password.toList then .ok ()
          else .error (.passwordMismatch passwordField secret urlField)

end DeployOptions.Secret
