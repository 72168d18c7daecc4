import DeployOptions.Proofs.Url.Parts
import DeployOptions.Secret.Consistency

/-! What the check of a URL against a password comes to, from the parts that stand in the URL. -/
namespace DeployOptions.Secret
open Text

variable {url password secret urlField passwordField : String}

/-- The outcome of the check: the faults of the URL come before those of its user-info, and the
password is looked at last. -/
theorem checkUrlPassword_eq (url password secret urlField passwordField : String) :
    checkUrlPassword url password secret urlField passwordField =
      match Url.fault? url.toList with
      | some f => .error (.urlMalformed urlField secret f)
      | none =>
        if Percent.hasBrokenEscape
            ((Url.userInfo? (Url.authorityText url.toList)).getD []) then
          .error (.urlBrokenEscape urlField secret)
        else
          match Url.password? (Url.authorityText url.toList) with
          | none => .error (.urlWithoutPassword urlField secret)
          | some embedded =>
            if Percent.decode embedded = password.toList then .ok ()
            else .error (.passwordMismatch passwordField secret urlField) := by
  unfold checkUrlPassword Url.fault?
  cases hauthority : Url.authority url.toList with
  | error f => rfl
  | ok authority =>
    obtain rfl := Url.eq_authorityText hauthority
    dsimp only
    cases Url.checkPort (Url.authorityText url.toList) with
    | error f => rfl
    | ok _ => rfl

/-- A URL is accepted exactly where there is no fault in it and its password is read as the one
beside it. -/
theorem checkUrlPassword_eq_ok_iff :
    checkUrlPassword url password secret urlField passwordField = .ok () ↔
      Url.fault? url.toList = none ∧
      Percent.hasBrokenEscape ((Url.userInfo? (Url.authorityText url.toList)).getD []) = false ∧
      ∃ embedded, Url.password? (Url.authorityText url.toList) = some embedded ∧
        Percent.decode embedded = password.toList := by
  rw [checkUrlPassword_eq]
  cases Url.fault? url.toList with
  | some f => simp
  | none =>
    cases Percent.hasBrokenEscape ((Url.userInfo? (Url.authorityText url.toList)).getD []) with
    | true => simp
    | false =>
      cases Url.password? (Url.authorityText url.toList) with
      | none => simp
      | some embedded => simp

end DeployOptions.Secret
