import DeployOptions.Proofs.Resolve.Checks
import DeployOptions.Proofs.Secret.TableRun

/-! The resolution of zync as a run over its table, followed by checks that change nothing. -/
namespace DeployOptions
open Run

namespace Policy

def zyncFields : List String := zyncTable.map Policy.field

theorem zyncTable_oneSecret : OneSecret "zync" zyncTable where
  secret_eq := by simp [zyncTable]
  fields := by decide
  options := by decide

/-- The fields of the rows before a row are those before its field. -/
theorem takeWhile_zyncFields {before after : List Policy} {p : Policy}
    (htable : zyncTable = before ++ p :: after) :
    zyncFields.takeWhile (· ≠ p.field) = before.map Policy.field := by
  have hnodup := zyncTable_oneSecret.fields
  rw [htable, List.map_append, List.map_cons] at hnodup
  have hbefore : ∀ field ∈ before.map Policy.field, decide (field ≠ p.field) = true := by
    intro field hfield
    rw [decide_eq_true_eq]
    rintro rfl
    exact (List.nodup_append.mp hnodup).2.2 _ hfield _ List.mem_cons_self rfl
  rw [zyncFields, htable, List.map_append, List.map_cons, List.takeWhile_append_of_pos hbefore]
  simp

/-- Every default of zync can be made when its row is reached. -/
theorem zyncTable_draws : TableDraws [] zyncTable := by
  refine ⟨?_, ?_, ?_, ?_, trivial⟩
  · intro resolved w _
    exact ⟨_, _, exec_randomText _ w⟩
  · intro resolved w _
    exact ⟨_, _, exec_randomText _ w⟩
  · intro resolved w _
    exact ⟨_, _, exec_randomText _ w⟩
  · intro resolved w hknown
    obtain ⟨password, hpassword⟩ := Option.isSome_iff_exists.mp
      (hknown "database_password" (by decide))
    refine ⟨Credential.databaseUrl password, w.picks, ?_⟩
    have hearlier : exec (earlier "database_password" resolved) w = (.ok password, w) := by
      rw [earlier, hpassword]
      rfl
    exact exec_bind_ok hearlier _

theorem zyncTable_printable {ns : String} (hprint : (Notice.reading ns "zync").lines = .ok []) :
    ∀ p ∈ zyncTable, p.Printable ns := by
  have hplain : ∀ p ∈ zyncTable, '[' ∉ p.secret.toList ∧ '[' ∉ p.field.toList := by decide
  intro p hp
  refine ⟨?_, Notice.lines_stored (hplain p hp).1 (hplain p hp).2⟩
  rw [zyncTable_oneSecret.secret_eq p hp]
  exact hprint

end Policy

def ZyncOptions.credentials (o : ZyncOptions) : List (String × Value) :=
  [("ZYNC_DATABASE_PASSWORD", o.databasePassword), ("SECRET_KEY_BASE", o.secretKeyBase),
    ("ZYNC_AUTHENTICATION_TOKEN", o.authenticationToken), ("DATABASE_URL", o.databaseUrl)]

namespace Resolve

/-- The credentials among resolved values, once the URL and the password agree. -/
def consistent (r : Resolved) : Except Failure ZyncSecrets :=
  let secrets := ZyncSecrets.ofResolved r
  match Secret.checkUrlPassword secrets.databaseUrl secrets.databasePassword "zync" "DATABASE_URL"
      "ZYNC_DATABASE_PASSWORD" with
  | .ok () => .ok secrets
  | .error cause => .error (.options ⟨cause, []⟩)

def zyncOutcome (m : Manager) (namespaceName : Value) (resolved : Except Failure Resolved) :
    Except Failure ZyncOptions :=
  ((resolved.bind consistent).mapError
    (Failure.inStage "get_zync_options reading secret options")).bind
      (checkedZyncOptions m namespaceName)

/-- The credentials are those of the table, if they agree. -/
theorem zyncSecrets_eq (m : Manager) (namespaceName : Value) :
    zyncSecrets m namespaceName = (do
      let resolved ← Policy.resolveTable m namespaceName [] Policy.zyncTable
      Run.ofExcept (consistent resolved)) := by
  refine bind_congr fun resolved => ?_
  simp only [consistent]
  generalize Secret.checkUrlPassword _ _ _ _ _ = check
  cases check <;> rfl

private theorem exec_zyncSecrets (m : Manager) (namespaceName : Value) (w : World) :
    exec (zyncSecrets m namespaceName) w =
      ((exec (Policy.resolveTable m namespaceName [] Policy.zyncTable) w).1.bind consistent,
        (exec (Policy.resolveTable m namespaceName [] Policy.zyncTable) w).2) := by
  rw [zyncSecrets_eq]
  cases htable : exec (Policy.resolveTable m namespaceName [] Policy.zyncTable) w with
  | mk outcome w' =>
    cases outcome with
    | error f => exact exec_bind_error htable _
    | ok r => exact (exec_bind_ok htable _).trans (exec_ofExcept _ _)

/-- Nothing behind the credentials touches the outside. -/
theorem exec_zync_eq (m : Manager) (namespaceName : Value) (w : World) :
    exec (zync m namespaceName) w =
      (((exec (zyncSecrets m namespaceName) w).1.mapError
          (Failure.inStage "get_zync_options reading secret options")).bind
          (checkedZyncOptions m namespaceName),
        (exec (zyncSecrets m namespaceName) w).2) := by
  have hstage := exec_inStage "get_zync_options reading secret options"
    (zyncSecrets m namespaceName) w
  unfold zync
  cases hsecrets : exec (zyncSecrets m namespaceName) w with
  | mk outcome w' =>
    rw [hsecrets] at hstage
    cases outcome with
    | error f => cases f <;> exact exec_bind_error hstage _
    | ok secrets => exact (exec_bind_ok hstage _).trans (exec_ofExcept _ _)

theorem exec_zync_of_secrets {m : Manager} {namespaceName : Value} {w w' : World}
    {secrets : ZyncSecrets} (h : exec (zyncSecrets m namespaceName) w = (.ok secrets, w')) :
    exec (zync m namespaceName) w = (checkedZyncOptions m namespaceName secrets, w') := by
  rw [exec_zync_eq, h]
  rfl

/-- An options error of a resolution is one of the credentials, seen from outside, or it comes
behind them. -/
theorem zync_error_cases {m : Manager} {namespaceName : Value} {w w' : World} {e : OptionsError}
    (h : exec (zync m namespaceName) w = (.error (.options e), w')) :
    (∃ inner, exec (zyncSecrets m namespaceName) w = (.error (.options inner), w') ∧
      e = inner.withContext "get_zync_options reading secret options") ∨
    ∃ secrets, exec (zyncSecrets m namespaceName) w = (.ok secrets, w') ∧
      checkedZyncOptions m namespaceName secrets = .error (.options e) := by
  rcases exists_of_exec_bind_error h with hstage | ⟨secrets, v, hstage, hchecked⟩
  · exact .inl (exists_of_inStage_error hstage)
  · rw [exec_ofExcept] at hchecked
    obtain ⟨herror, rfl⟩ := Prod.mk.inj hchecked
    exact .inr ⟨secrets, exec_of_inStage_ok hstage, herror⟩

/-- Nothing behind the table touches the outside either. -/
theorem exec_zync (m : Manager) (namespaceName : Value) (w : World) :
    exec (zync m namespaceName) w =
      (zyncOutcome m namespaceName
          (exec (Policy.resolveTable m namespaceName [] Policy.zyncTable) w).1,
        (exec (Policy.resolveTable m namespaceName [] Policy.zyncTable) w).2) := by
  rw [exec_zync_eq, exec_zyncSecrets, zyncOutcome]

variable {m : Manager} {ns : String} {w : World}

/-- Where no call meets a fault and the spinner can be printed, a resolution is a run over the
table of zync. -/
theorem exists_tableRun (m : Manager) (hw : w.faults = [])
    (hprint : (Notice.reading ns "zync").lines = .ok []) :
    ∃ resolved w', Policy.TableRun m ns [] w Policy.zyncTable resolved w' ∧
      exec (zync m (.str ns)) w = (zyncOutcome m (.str ns) resolved, w') :=
  ⟨_, _, Policy.tableRun_resolveTable hw (Policy.zyncTable_printable hprint)
    Policy.zyncTable_draws (by simp), exec_zync m (.str ns) w⟩

/-- Checked options hold the credentials that they were made with. -/
theorem credentials_of_checked {secrets : ZyncSecrets} {namespaceName : Value} {o : ZyncOptions}
    (h : checkedZyncOptions m namespaceName secrets = .ok o) :
    o.credentials = [("ZYNC_DATABASE_PASSWORD", .str secrets.databasePassword),
      ("SECRET_KEY_BASE", .str secrets.secretKeyBase),
      ("ZYNC_AUTHENTICATION_TOKEN", .str secrets.authenticationToken),
      ("DATABASE_URL", .str secrets.databaseUrl)] := by
  have hmade := zyncOptions_of_checked h
  obtain ⟨images, -, hmade⟩ := exists_of_bind_ok hmade
  obtain ⟨zyncPod, -, hmade⟩ := exists_of_bind_ok hmade
  obtain ⟨quePod, -, hmade⟩ := exists_of_bind_ok hmade
  obtain ⟨databasePod, -, hmade⟩ := exists_of_bind_ok hmade
  rw [← Except.ok.inj hmade]
  rfl

section Resolved

variable {namespaceName : Value} {r : Resolved}

def agreement (r : Resolved) : Except Cause Unit :=
  Secret.checkUrlPassword (ZyncSecrets.ofResolved r).databaseUrl
    (ZyncSecrets.ofResolved r).databasePassword "zync" "DATABASE_URL" "ZYNC_DATABASE_PASSWORD"

theorem consistent_eq (r : Resolved) :
    consistent r = match agreement r with
      | .ok () => .ok (ZyncSecrets.ofResolved r)
      | .error cause => .error (.options ⟨cause, []⟩) := rfl

/-- With every row resolved and a URL that agrees, it comes to the checks of the options. -/
theorem zyncOutcome_of_agreement (h : agreement r = .ok ()) :
    zyncOutcome m namespaceName (.ok r) =
      checkedZyncOptions m namespaceName (ZyncSecrets.ofResolved r) := by
  rw [zyncOutcome, Except.bind, consistent_eq, h]
  rfl

/-- With every row resolved, a URL that does not agree is the failure. -/
theorem zyncOutcome_of_disagreement {cause : Cause} (h : agreement r = .error cause) :
    zyncOutcome m namespaceName (.ok r) =
      .error (.options ⟨cause, ["get_zync_options reading secret options"]⟩) := by
  rw [zyncOutcome, Except.bind, consistent_eq, h]
  rfl

end Resolved

/-- A resolution that succeeds has resolved every row of the table. -/
theorem exists_resolved {namespaceName : Value} {resolved : Except Failure Resolved}
    {o : ZyncOptions} (h : zyncOutcome m namespaceName resolved = .ok o) :
    ∃ r, resolved = .ok r ∧ agreement r = .ok () ∧
      checkedZyncOptions m namespaceName (ZyncSecrets.ofResolved r) = .ok o := by
  cases resolved with
  | error f => cases f <;> cases h
  | ok r =>
    cases hcheck : agreement r with
    | error cause =>
      rw [zyncOutcome_of_disagreement hcheck] at h
      cases h
    | ok _ =>
      rw [zyncOutcome_of_agreement hcheck] at h
      exact ⟨r, rfl, hcheck, h⟩

/-- A resolution that cannot even say that it reads fails with that, and changes no secret. -/
theorem exec_zync_of_error {f : MarkupFault}
    (hprint : (Notice.reading ns "zync").lines = .error (.markup f)) :
    (exec (zync m (.str ns)) w).1 = .error (.markup f) ∧
      (exec (zync m (.str ns)) w).2.store = w.store := by
  have htable : exec (Policy.resolveTable m (.str ns) [] Policy.zyncTable) w =
      (.error (.markup f), { w with notices := w.notices ++ [.reading ns "zync"] }) :=
    exec_bind_error (exec_bind_error (Secret.exec_lookup_of_error hprint _) _) _
  rw [exec_zync, htable]
  exact ⟨rfl, rfl⟩

/-- So a resolution that fails with an options error has said that it reads. -/
theorem lines_reading_of_options {e : OptionsError}
    (h : (exec (zync m (.str ns)) w).1 = .error (.options e)) :
    (Notice.reading ns "zync").lines = .ok [] := by
  rcases Notice.lines_reading ns "zync" with hprint | ⟨f, hprint⟩
  · exact hprint
  · rw [(exec_zync_of_error hprint).1] at h
    cases h

/-- A resolution only adds careful calls to the log. -/
theorem exists_log_zync (m : Manager) (hw : w.faults = [])
    (hprint : (Notice.reading ns "zync").lines = .ok []) :
    (exec (zync m (.str ns)) w).2.faults = [] ∧
      ∃ calls, (exec (zync m (.str ns)) w).2.calls = w.calls ++ calls ∧
        CarefulLog ns "zync" Policy.zyncFields w.store calls
          (exec (zync m (.str ns)) w).2.store := by
  obtain ⟨resolved, w', hrun, hexec⟩ := exists_tableRun m hw hprint
  obtain ⟨hfaults, hlog⟩ := hrun.exists_log Policy.zyncTable_oneSecret.mem_fields
  rw [hexec]
  exact ⟨hfaults.trans hw, hlog⟩

/-- Its first call is to read the secret. -/
theorem exists_calls_zync_read (m : Manager) (hw : w.faults = [])
    (hprint : (Notice.reading ns "zync").lines = .ok []) :
    ∃ calls, (exec (zync m (.str ns)) w).2.calls = w.calls ++ .read (.str ns) "zync" :: calls := by
  obtain ⟨resolved, w', hrun, hexec⟩ := exists_tableRun m hw hprint
  rw [hexec]
  exact hrun.exists_first_read Policy.zyncTable_oneSecret.mem_fields

end Resolve
end DeployOptions
