import DeployOptions.Credential
import DeployOptions.Proofs.Url.Connection
import DeployOptions.Secret.Consistency

/-! The check of a connection URL against a password, on URLs whose user-info is percent-encoded:
such a URL agrees with the password it was made from and with no other. -/
namespace DeployOptions

/-- Whether a cause is that a URL does not agree with the password beside it. -/
def Cause.isUrlFault : Cause → Bool
  | .urlMalformed .. | .urlBrokenEscape .. | .urlWithoutPassword .. | .passwordMismatch .. => true
  | _ => false

namespace Secret
open Text

/-- The check fails for no other reason. -/
theorem isUrlFault_of_checkUrlPassword {url password secret urlField passwordField : String}
    {cause : Cause}
    (h : checkUrlPassword url password secret urlField passwordField = .error cause) :
    cause.isUrlFault = true := by
  unfold checkUrlPassword at h
  split at h
  · cases h
    rfl
  · split at h
    · cases h
      rfl
    · split at h
      · cases h
        rfl
      · split at h
        · cases h
          rfl
        · split at h
          · cases h
          · cases h
            rfl

/-- The check decides whether the candidate is the password in the URL, and nothing in user,
password or tail can make it fail in another way. -/
theorem checkUrlPassword_connection {scheme user password candidate host tail : String}
    {port : Option Nat} (hscheme : scheme ≠ "") (hletters : scheme.toList.all Char.isAlpha = true)
    (hhost : host.toList.all Url.isHostChar = true) (hport : ∀ n ∈ port, n ≤ 65535)
    (htail : Url.isTail tail.toList = true) (secret urlField passwordField : String) :
    checkUrlPassword (String.ofList (Url.connection scheme.toList user.toList password.toList
        host.toList port tail.toList)) candidate secret urlField passwordField =
      if candidate = password then .ok ()
      else .error (.passwordMismatch passwordField secret urlField) := by
  have hscheme : scheme.toList ≠ [] := fun h => hscheme (String.toList_inj.mp h)
  have hinfo : Percent.hasBrokenEscape
      (Percent.encode user.toList ++ ':' :: Percent.encode password.toList) = false := by
    rw [Percent.hasBrokenEscape_encode_append, Percent.hasBrokenEscape,
      ← List.append_nil (Percent.encode password.toList), Percent.hasBrokenEscape_encode_append]
    · rfl
    · decide
  rw [checkUrlPassword, String.toList_ofList,
    Url.authority_connection hscheme hletters hhost htail]
  simp only [Url.checkPort_connectionAuthority hhost hport, Url.userInfo?_connectionAuthority hhost,
    Option.getD_some, hinfo, Url.password?_connectionAuthority hhost, Percent.decode_encode,
    Bool.false_eq_true, if_false]
  by_cases h : candidate = password
  · rw [if_pos h, if_pos (by rw [h])]
  · rw [if_neg h, if_neg fun he => h (String.toList_inj.mp he).symm]

theorem databaseUrl_eq_connection (password : String) :
    Credential.databaseUrl password =
      String.ofList (Url.connection "postgresql".toList "zync".toList password.toList
        "zync-database".toList (some 5432) "/zync_production".toList) := by
  have hjoin (front back : List Char)
      (hfront : front = "postgresql".toList ++
        ':' :: '/' :: '/' :: (Percent.encode "zync".toList ++ [':']))
      (hback : back = '@' :: ("zync-database".toList ++ Url.portSuffix (some 5432) ++
        "/zync_production".toList)) :
      front ++ Percent.encode password.toList ++ back =
        Url.connection "postgresql".toList "zync".toList password.toList
          "zync-database".toList (some 5432) "/zync_production".toList := by
    rw [hfront, hback]
    simp only [Url.connection, Url.connectionAuthority, List.append_assoc, List.cons_append,
      List.nil_append]
  exact congrArg String.ofList (hjoin _ _ (by decide) (by decide))

/-- The default URL agrees with the password it holds and with no other. -/
theorem checkUrlPassword_databaseUrl (password candidate secret urlField passwordField : String) :
    checkUrlPassword (Credential.databaseUrl password) candidate secret urlField passwordField =
      if candidate = password then .ok ()
      else .error (.passwordMismatch passwordField secret urlField) := by
  rw [databaseUrl_eq_connection]
  apply checkUrlPassword_connection
  · decide
  · decide
  · decide
  · intro n hn
    cases hn
    decide
  · decide

theorem databaseUrl_injective {p q : String}
    (h : Credential.databaseUrl p = Credential.databaseUrl q) : p = q := by
  have hencoded := List.append_cancel_left (List.append_cancel_right (String.ofList_inj.mp h))
  exact String.toList_inj.mp (Percent.encode_injective hencoded)

/-- Encoder and check agree on all texts: of user, password and tail any characters, of scheme, host
and port those that such a URL can have. The only failure is the one that says that the passwords
differ. No two passwords have the same default URL. -/
theorem encoded_password_agreement :
    (∀ (scheme user password candidate host tail : String) (port : Option Nat)
        (secret urlField passwordField : String),
      scheme ≠ "" → scheme.toList.all Char.isAlpha = true →
      host.toList.all Url.isHostChar = true → (∀ n ∈ port, n ≤ 65535) →
      Url.isTail tail.toList = true →
      checkUrlPassword (String.ofList (Url.connection scheme.toList user.toList password.toList
          host.toList port tail.toList)) candidate secret urlField passwordField =
        if candidate = password then .ok ()
        else .error (.passwordMismatch passwordField secret urlField)) ∧
    (∀ password candidate secret urlField passwordField : String,
      checkUrlPassword (Credential.databaseUrl password) candidate secret urlField passwordField =
        if candidate = password then .ok ()
        else .error (.passwordMismatch passwordField secret urlField)) ∧
    (∀ secret urlField passwordField : String,
      (Cause.passwordMismatch passwordField secret urlField).kind = .inconsistency) ∧
    ∀ p q : String, Credential.databaseUrl p = Credential.databaseUrl q → p = q :=
  ⟨fun _ _ _ _ _ _ _ secret urlField passwordField hscheme hletters hhost hport htail =>
      checkUrlPassword_connection hscheme hletters hhost hport htail secret urlField passwordField,
    checkUrlPassword_databaseUrl, fun _ _ _ => rfl, fun _ _ => databaseUrl_injective⟩

/-- Every delimiter of a URL in user and password, the highest port, and a query with brackets. -/
theorem encoded_password_agreement_delimiters :
    "pg" ≠ "" ∧ "pg".toList.all Char.isAlpha = true ∧
    "db-1.example.com".toList.all Url.isHostChar = true ∧ (∀ n ∈ some 65535, n ≤ 65535) ∧
    Url.isTail "?a=[b]\t#@:".toList = true ∧
    checkUrlPassword (String.ofList (Url.connection "pg".toList "a@b:c".toList "@:/%?#[é".toList
        "db-1.example.com".toList (some 65535) "?a=[b]\t#@:".toList)) "@:/%?#[é"
        "zync" "DATABASE_URL" "ZYNC_DATABASE_PASSWORD" = .ok () ∧
    checkUrlPassword (String.ofList (Url.connection "pg".toList "a@b:c".toList "@:/%?#[é".toList
        "db-1.example.com".toList (some 65535) "?a=[b]\t#@:".toList)) "%40"
        "zync" "DATABASE_URL" "ZYNC_DATABASE_PASSWORD" =
      .error (.passwordMismatch "ZYNC_DATABASE_PASSWORD" "zync" "DATABASE_URL") := by
  have hport : ∀ n ∈ some 65535, n ≤ 65535 := by
    intro n hn
    cases hn
    decide
  have hcheck (candidate : String) := encoded_password_agreement.1 "pg" "a@b:c" "@:/%?#[é" candidate
    "db-1.example.com" "?a=[b]\t#@:" (some 65535) "zync" "DATABASE_URL" "ZYNC_DATABASE_PASSWORD"
    (by decide) (by decide) (by decide) hport (by decide)
  exact ⟨by decide, by decide, by decide, hport, by decide, (hcheck _).trans (if_pos rfl),
    (hcheck _).trans (if_neg (by decide))⟩

end Secret
end DeployOptions
