import DeployOptions.Proofs.Document.Acceptance
import DeployOptions.Proofs.Resolve.Success
import DeployOptions.Proofs.Secret.Causes

/-! Which fields a failed check can name: images and a management API that the document leaves
blank, credentials that are empty, and the namespace. All others are filled in by then. -/
namespace DeployOptions

/-- A value that is given and yet holds nothing. -/
def Value.isBlank (v : Value) : Bool := v.isPresent && !v.isTruthy

theorem Value.isTruthy_str_eq (s : String) : (Value.str s).isTruthy = !(Value.str s).isBlank := by
  simp [isBlank, isPresent]

theorem Value.isBlank_str {s : String} : (Value.str s).isBlank = true ↔ s = "" := by
  simp [isBlank, isPresent, isTruthy]

/-- A default does not stand in for what is blank. -/
theorem Document.isTruthy_orElse {default : String} (hdefault : default ≠ "") (v : Value) :
    (Document.orElse (.str default) v).isTruthy = !v.isBlank := by
  cases v with
  | null => exact Value.isTruthy_str.mpr hdefault
  | _ => simp [Document.orElse, Value.isBlank, Value.isPresent]

def blanks (named : List (String × Value)) : List String :=
  (named.filter fun v => v.2.isBlank).map Prod.fst

theorem blanks_cons (name : String) (v : Value) (named : List (String × Value)) :
    blanks ((name, v) :: named) =
      if !v.isBlank then blanks named else name :: blanks named := by
  unfold blanks
  cases h : v.isBlank <;> simp [h]

namespace Resolve
open Run Policy Document

def namedImages (doc : Value) : List (String × Value) :=
  [("apicast_image", doc.valueAt ["spec", "apicast", "image"]),
    ("zync_image", doc.valueAt ["spec", "zync", "image"]),
    ("zync_database_postgresql_image", doc.valueAt ["spec", "zync", "postgreSQLImage"])]

/-- The credentials of zync that may be empty, and the namespace. A URL that agrees with the
password is not empty. -/
def namedCredentials (secrets : ZyncSecrets) (ns : String) : List (String × Value) :=
  [("database_password", .str secrets.databasePassword),
    ("secret_key_base", .str secrets.secretKeyBase),
    ("authentication_token", .str secrets.authenticationToken), ("namespace", .str ns)]

def namedGateway (doc : Value) (ns : String) : List (String × Value) :=
  [("management_api", doc.valueAt ["spec", "apicast", "apicastManagementAPI"]),
    ("namespace", .str ns)]

variable {doc : Value} {m : Manager} {k : Value} {ns : String} {secrets : ZyncSecrets}

private theorem missing_images (doc : Value) :
    missingFields (imageOptions (managerAt doc)).required = blanks (namedImages doc) := by
  have hfields : (imageOptions (managerAt doc)).required =
      [("apicast_image", (orElse (.str apicastImage)
          (doc.valueAt ["spec", "apicast", "image"])).isTruthy),
        ("zync_image", (orElse (.str zyncImage)
          (doc.valueAt ["spec", "zync", "image"])).isTruthy),
        ("zync_database_postgresql_image", (orElse (.str zyncDatabaseImage)
          (doc.valueAt ["spec", "zync", "postgreSQLImage"])).isTruthy)] := rfl
  have hapicast : apicastImage ≠ "" := by decide
  have hzync : zyncImage ≠ "" := by decide
  have hdatabase : zyncDatabaseImage ≠ "" := by decide
  rw [hfields, namedImages]
  simp only [missingFields_cons, blanks_cons, isTruthy_orElse hapicast, isTruthy_orElse hzync,
    isTruthy_orElse hdatabase]
  rfl

/-- With a URL, all that can be missing in the options of zync are the other credentials and the
namespace. -/
private theorem missing_zync {made : ZyncOptions} (h : zyncOptions m (.str ns) secrets = .ok made)
    (hurl : secrets.databaseUrl ≠ "") :
    missingFields made.required = blanks (namedCredentials secrets ns) := by
  obtain ⟨_, -, h⟩ := exists_of_bind_ok h
  obtain ⟨_, -, h⟩ := exists_of_bind_ok h
  obtain ⟨_, -, h⟩ := exists_of_bind_ok h
  obtain ⟨_, -, h⟩ := exists_of_bind_ok h
  obtain rfl := Except.ok.inj h
  have hrelease : (Value.str release).isTruthy = true := by decide
  simp only [ZyncOptions.required, namedCredentials, missingFields_cons, blanks_cons, hrelease,
    Value.isTruthy_str.mpr hurl, Value.isPresent, Held.isSet, if_true, Value.isTruthy_str_eq]
  rfl

private theorem missing_apicast {made : ApicastOptions}
    (h : apicastOptions (managerAt doc) (.str ns) = .ok made) :
    missingFields made.required = blanks (namedGateway doc ns) := by
  have hflag (b : Bool) : (Value.str (if b then "true" else "false")).isTruthy = true := by
    cases b <;> decide
  obtain ⟨_, -, h⟩ := exists_of_bind_ok h
  obtain ⟨_, -, h⟩ := exists_of_bind_ok h
  obtain ⟨_, -, h⟩ := exists_of_bind_ok h
  obtain rfl := Except.ok.inj h
  have hrelease : (Value.str release).isTruthy = true := by decide
  have hstatus : "status" ≠ "" := by decide
  have hapi : (managerAt doc).spec.apicast.managementApi = orElse (.str "status")
    (doc.valueAt ["spec", "apicast", "apicastManagementAPI"]) := rfl
  simp only [ApicastOptions.required, namedGateway, missingFields_cons, blanks_cons, hrelease,
    hflag, hapi, isTruthy_orElse hstatus, Value.isPresent, Held.isSet, if_true,
    Value.isTruthy_str_eq]
  rfl

/-- Up to the checks, an operation of zync blames the secrets or a URL in them. -/
private theorem zyncSecrets_blames (m : Manager) (k : Value) :
    (zyncSecrets m k).Blames fun c => c.isOfSecrets = true ∨ c.isUrlFault = true := by
  have hdefault : ∀ p ∈ zyncTable, ∀ resolved,
      (p.default resolved).Blames (·.isOfSecrets = true) := by
    have hrandom (length : Nat) : (randomText length).Blames (·.isOfSecrets = true) := by
      intro w e w' h
      cases h
    have hearlier (option : String) (resolved : Resolved) :
        (earlier option resolved).Blames (·.isOfSecrets = true) := by
      unfold earlier
      cases Assoc.get? option resolved with
      | some value => exact .of_pure value
      | none =>
        intro w e w' h
        cases h
    simp only [zyncTable, List.forall_mem_cons]
    exact ⟨fun _ => hrandom _, fun _ => hrandom _, fun _ => hrandom _,
      fun _ => .bind (hearlier _ _) fun _ => .of_pure _, by simp⟩
  rw [zyncSecrets_eq]
  refine .bind ((resolveTable_blames hdefault []).mono fun _ => .inl) fun r =>
    .of_ofExcept fun e h => .inr ?_
  rw [consistent_eq] at h
  cases hcheck : agreement r with
  | ok _ =>
    rw [hcheck] at h
    cases h
  | error cause =>
    rw [hcheck] at h
    cases h
    exact Secret.isUrlFault_of_checkUrlPassword hcheck

/-- Credentials that were found are those of the table, and the URL agrees with the password. -/
private theorem exists_of_zyncSecrets {w w' : World}
    (h : exec (zyncSecrets m k) w = (.ok secrets, w')) :
    ∃ r, exec (resolveTable m k [] zyncTable) w = (.ok r, w') ∧
      secrets = ZyncSecrets.ofResolved r ∧ agreement r = .ok () := by
  rw [zyncSecrets_eq] at h
  obtain ⟨r, w'', htable, h⟩ := exists_of_exec_bind_ok h
  rw [exec_ofExcept, consistent_eq] at h
  cases hcheck : agreement r with
  | ok _ =>
    rw [hcheck] at h
    cases h
    exact ⟨r, htable, rfl, hcheck⟩
  | error cause =>
    rw [hcheck] at h
    cases h

private theorem url_ne_empty {r : Resolved} (h : agreement r = .ok ()) :
    (ZyncSecrets.ofResolved r).databaseUrl ≠ "" := by
  intro hurl
  rw [agreement, hurl] at h
  cases h

/-- A failed check of zync comes behind the credentials. -/
private theorem exists_checked {w w' : World} {e : OptionsError} {fields : List String}
    (h : exec (zync m k) w = (.error (.options e), w')) (hkind : e.kind = .validation fields) :
    ∃ secrets, exec (zyncSecrets m k) w = (.ok secrets, w') ∧
      checkedZyncOptions m k secrets = .error (.options e) := by
  have hother {c : Cause} (hc : c.isOfSecrets = true ∨ c.isUrlFault = true) :
      c.kind ≠ .validation fields := by
    intro h
    rcases hc with hc | hc <;> cases c <;> first | exact Bool.false_ne_true hc | cases h
  rcases zync_error_cases h with ⟨inner, hinner, rfl⟩ | hchecked
  · exact absurd hkind (hother (zyncSecrets_blames m k w inner w' hinner))
  · exact hchecked

private theorem mem_blanks_namedCredentials (secrets : ZyncSecrets) (ns : String) :
    ("database_password" ∈ blanks (namedCredentials secrets ns) ↔ secrets.databasePassword = "") ∧
    ("secret_key_base" ∈ blanks (namedCredentials secrets ns) ↔ secrets.secretKeyBase = "") ∧
    ("authentication_token" ∈ blanks (namedCredentials secrets ns) ↔
      secrets.authenticationToken = "") ∧
    "database_url" ∉ blanks (namedCredentials secrets ns) := by
  simp [blanks, namedCredentials, Value.isBlank_str]

/-- Where no call meets a fault, an empty credential is one that is stored empty. -/
private theorem mem_blanks_iff {w w' : World} {r : Resolved} (hw : w.faults = [])
    (hprint : (Notice.reading ns "zync").lines = .ok [])
    (h : exec (resolveTable m (.str ns) [] zyncTable) w = (.ok r, w'))
    (hcheck : agreement r = .ok ()) :
    ∀ p ∈ zyncTable, p.option ∈ blanks (namedCredentials (ZyncSecrets.ofResolved r) ns) ↔
      w.store.value? (.str ns) "zync" p.field = .ok (some "") := by
  have hrun : TableRun m ns [] w zyncTable
      (exec (resolveTable m (.str ns) [] zyncTable) w).1
      (exec (resolveTable m (.str ns) [] zyncTable) w).2 :=
    tableRun_resolveTable hw (zyncTable_printable hprint) zyncTable_draws (by simp)
  rw [h] at hrun
  have hempty : ∀ p ∈ zyncTable, (Assoc.get? p.option r).getD "" = "" ↔
      w.store.value? (.str ns) "zync" p.field = .ok (some "") := by
    intro p hp
    obtain ⟨value, hvalue⟩ := hrun.settled zyncTable_oneSecret (fun p _ => rfl) p hp
    rw [hvalue.resolved, Option.getD_some]
    exact eq_empty_iff hp hvalue
  obtain ⟨hpassword, hkeyBase, htoken, hurl⟩ :=
    mem_blanks_namedCredentials (ZyncSecrets.ofResolved r) ns
  simp only [zyncTable, List.forall_mem_cons] at hempty ⊢
  exact ⟨hpassword.trans hempty.1, hkeyBase.trans hempty.2.1, htoken.trans hempty.2.2.1,
    iff_of_false hurl fun h => url_ne_empty hcheck (hempty.2.2.2.1.mpr h), by simp⟩

private theorem message_two (outer inner : String) (cause : Cause) :
    OptionsError.message ⟨cause, [outer, inner]⟩ =
      outer ++ ": " ++ inner ++ ": " ++ cause.message := by
  simp [OptionsError.message, String.append_assoc]

/-- Whatever document is accepted, a check of the options fails with one of two messages. Behind
the first stand the images that the document leaves blank. Behind the second stand for zync the
credentials that are empty, which are those that are stored empty, and for the gateways a blank
management API, each time with an empty namespace at the end. -/
theorem validation_errors_reachable {entries : List (Value × Value)}
    (h : Manager.ofDocument (.map entries) = .ok m) (ns : String) :
    (∀ w w' e fields, exec (zync m (.str ns)) w = (.error (.options e), w') →
      e.kind = .validation fields → fields ≠ [] ∧
      (e.message =
          "get_zync_options reading image options: get_amp_images_options validating: " ++
            (Cause.requiredEmpty "AmpImagesOptions" fields).message ∧
          fields = blanks (namedImages (.map entries)) ∨
        e.message = "get_zync_options validating: " ++
            (Cause.requiredEmpty "ZyncOptions" fields).message ∧
          (∃ secrets, exec (zyncSecrets m (.str ns)) w = (.ok secrets, w') ∧
            fields = blanks (namedCredentials secrets ns)) ∧
          (w.faults = [] → ∀ p ∈ zyncTable, p.option ∈ fields ↔
            w.store.value? (.str ns) "zync" p.field = .ok (some "")))) ∧
    ∀ e fields, apicast m (.str ns) = .error (.options e) →
      e.kind = .validation fields → fields ≠ [] ∧
      (e.message =
          "get_apicast_options reading image options: get_amp_images_options validating: " ++
            (Cause.requiredEmpty "AmpImagesOptions" fields).message ∧
          fields = blanks (namedImages (.map entries)) ∨
        e.message = "get_apicast_options validating: " ++
            (Cause.requiredEmpty "ApicastOptions" fields).message ∧
          fields = blanks (namedGateway (.map entries) ns)) := by
  obtain ⟨rfl, -⟩ := sound_of_accepted h
  constructor
  · intro w w' e fields herror hkind
    obtain ⟨secrets, hsecrets, hchecked⟩ := exists_checked herror hkind
    rcases eq_of_checked hchecked with ⟨rfl, hmissing⟩ | ⟨made, hmade, rfl, hmissing⟩
    · obtain rfl := ErrorKind.validation.inj hkind
      rw [missing_images] at hmissing ⊢
      exact ⟨hmissing, .inl ⟨message_two _ _ _, rfl⟩⟩
    · obtain rfl := ErrorKind.validation.inj hkind
      obtain ⟨r, htable, rfl, hcheck⟩ := exists_of_zyncSecrets hsecrets
      refine ⟨hmissing, .inr ⟨?_, ⟨_, hsecrets, missing_zync hmade (url_ne_empty hcheck)⟩, ?_⟩⟩
      · rfl
      · intro hw
        rw [missing_zync hmade (url_ne_empty hcheck)]
        exact mem_blanks_iff hw (lines_reading_of_options (congrArg Prod.fst herror)) htable hcheck
  · intro e fields herror hkind
    rcases eq_of_apicast herror with ⟨rfl, hmissing⟩ | ⟨made, hmade, rfl, hmissing⟩
    · obtain rfl := ErrorKind.validation.inj hkind
      rw [missing_images] at hmissing ⊢
      exact ⟨hmissing, .inl ⟨message_two _ _ _, rfl⟩⟩
    · obtain rfl := ErrorKind.validation.inj hkind
      exact ⟨hmissing, .inr ⟨rfl, missing_apicast hmade⟩⟩

/-- An empty image and one that is false are both named. -/
theorem validation_errors_reachable_blank_images :
    ∃ m e w', Manager.ofDocument (.map [(.str "metadata", .map [(.str "name", .str "own")]),
        (.str "spec", .map [(.str "apicast", .map [(.str "image", .str "")]),
          (.str "zync", .map [(.str "postgreSQLImage", .bool false)])])]) = .ok m ∧
      exec (zync m (.str "test")) { picks := ⟨fun n => n, 0⟩ } = (.error (.options e), w') ∧
      e.kind = .validation ["apicast_image", "zync_database_postgresql_image"] ∧
      e.message = "get_zync_options reading image options: get_amp_images_options validating: " ++
        "AmpImagesOptions is missing required fields: " ++
        "apicast_image, zync_database_postgresql_image" := by
  let entries : List (Value × Value) := [(.str "metadata", .map [(.str "name", .str "own")]),
    (.str "spec", .map [(.str "apicast", .map [(.str "image", .str "")]),
      (.str "zync", .map [(.str "postgreSQLImage", .bool false)])])]
  let m := managerAt (.map entries)
  let e : OptionsError := ⟨.requiredEmpty "AmpImagesOptions"
    ["apicast_image", "zync_database_postgresql_image"],
    ["get_zync_options reading image options", "get_amp_images_options validating"]⟩
  have hm : Manager.ofDocument (.map entries) = .ok m := rfl
  have hprint : (Notice.reading "test" "zync").lines = .ok [] :=
    Notice.lines_reading_of_not_mem (by decide) (by decide)
  have hw : ({ picks := ⟨fun n => n, 0⟩ } : World).faults = [] := rfl
  obtain ⟨resolved, w', hrun, hexec⟩ := exists_tableRun m hw hprint
  have havailable : ∀ p ∈ zyncTable, p.Available m "test" [] := by
    simp only [zyncTable, List.forall_mem_cons]
    exact ⟨.inr ⟨rfl, rfl⟩, .inr ⟨rfl, rfl⟩, .inr ⟨rfl, rfl⟩, .inr ⟨rfl, rfl⟩, by simp⟩
  obtain ⟨r, rfl⟩ := hrun.exists_ok zyncTable_oneSecret havailable
  rw [zyncOutcome_of_agreement (agreement_of_absent hrun rfl)] at hexec
  have herror : checkedZyncOptions m (.str "test") (ZyncSecrets.ofResolved r) =
      .error (.options e) := rfl
  rw [herror] at hexec
  obtain ⟨-, ⟨hmessage, -⟩ | ⟨hmessage, -⟩⟩ :=
    (validation_errors_reachable hm "test").1 _ _ e _ hexec rfl
  · exact ⟨m, e, w', hm, hexec, rfl, hmessage⟩
  · exact absurd hmessage (by decide)

end Resolve
end DeployOptions
