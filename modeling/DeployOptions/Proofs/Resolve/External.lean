import DeployOptions.Proofs.Resolve.Zync
import DeployOptions.Proofs.Secret.Required

/-! The resolution of zync for a database that somebody else runs: its password and its URL are
never made up. -/
namespace DeployOptions

namespace Policy
open Run

def databaseFields : List String := ["ZYNC_DATABASE_PASSWORD", "DATABASE_URL"]

theorem zyncTable_silent : ∀ p ∈ zyncTable, p.Silent := by
  simp only [zyncTable, List.forall_mem_cons]
  refine ⟨fun _ => ?_, fun _ => ?_, fun _ => ?_, fun resolved => ?_, by simp⟩
  · exact .of_eq (fun _ => rfl) fun _ => rfl
  · exact .of_eq (fun _ => rfl) fun _ => rfl
  · exact .of_eq (fun _ => rfl) fun _ => rfl
  · refine .bind ?_ fun _ => .of_pure _
    unfold earlier
    split
    · exact .of_pure _
    · exact .of_throw _

variable {m : Manager}

/-- With an external database, these fields are the required ones. -/
theorem isRequired_iff_databaseFields (hexternal : m.hasExternalDatabase = true) :
    ∀ p ∈ zyncTable, p.isRequired m = true ↔ p.field ∈ databaseFields := by
  simp [zyncTable, databaseFields, hexternal]

end Policy

namespace Resolve
open Run Policy

def zyncFrom (table : List Policy) (m : Manager) (namespaceName : Value) : Run ZyncOptions := do
  let secrets ← Run.inStage "get_zync_options reading secret options" do
    let resolved ← resolveTable m namespaceName [] table
    Run.ofExcept (consistent resolved)
  Run.ofExcept (checkedZyncOptions m namespaceName secrets)

theorem zyncFrom_zyncTable (m : Manager) (namespaceName : Value) :
    zyncFrom zyncTable m namespaceName = zync m namespaceName := by
  rw [zyncFrom, ← zyncSecrets_eq]
  rfl

variable {m : Manager} {ns : String} {w w' : World} {outcome : Except Failure ZyncOptions}

/-- A resolution calls nothing but what its rows call. -/
theorem zync_calls {P : Call → Prop} {namespaceName : Value}
    (h : ∀ p ∈ zyncTable, p.Keeps P m namespaceName) : (zync m namespaceName).Calls P := by
  intro w
  rw [exec_zync]
  exact resolveTable_calls zyncTable_silent h [] w

section External

variable (hexternal : m.hasExternalDatabase = true)
include hexternal

private theorem zyncFrom_redefault (default : String → Resolved → Run String) :
    zyncFrom (zyncTable.map (redefault databaseFields default)) m (.str ns) =
      zync m (.str ns) := by
  have hrequired : ∀ p ∈ zyncTable, p.field ∈ databaseFields → p.isRequired m = true :=
    fun p hp => (isRequired_iff_databaseFields hexternal p hp).mpr
  rw [← zyncFrom_zyncTable, zyncFrom, zyncFrom, resolveTable_redefault hrequired]

private theorem zync_calls_external : (zync m (.str ns)).Calls fun c =>
    ∀ field ∈ databaseFields, c.writes field = false := by
  refine zync_calls fun p hp => ⟨fun _ _ => rfl, fun hmay value => ?_⟩
  have hfield : p.field ∉ databaseFields := by
    intro hfield
    rw [(isRequired_iff_databaseFields hexternal p hp).mpr hfield] at hmay
    cases hmay
  have hwrites : ∀ field ∈ databaseFields, decide (p.field = field) = false := by
    intro field hmem
    exact decide_eq_false fun he => hfield (he ▸ hmem)
  exact ⟨hwrites, hwrites⟩

/-- Without its password, nothing but the first row is looked up. -/
private theorem password_absent (w : World) (ns : String)
    (habsent : w.store.field? (.str ns) "zync" "ZYNC_DATABASE_PASSWORD" = none) :
    (exec (zync m (.str ns)) w).2.store = w.store ∧
      ∃ calls, (exec (zync m (.str ns)) w).2.calls = w.calls ++ calls ∧
        ∀ c ∈ calls, c = .read (.str ns) "zync" := by
  have hsilent := zyncTable_silent
  simp only [zyncTable, List.forall_mem_cons] at hsilent
  rw [exec_zync]
  exact (resolveTable_absent hsilent.1 hexternal (Store.value?_eq_none_iff.mpr habsent)).2

/-- With the password there and nothing unreadable, a missing URL is what a resolution fails at. -/
private theorem exists_rows_before_url {password : String} {resolved : Except Failure Resolved}
    (hrun : TableRun m ns [] w zyncTable resolved w')
    (hpassword : w.store.value? (.str ns) "zync" "ZYNC_DATABASE_PASSWORD" = .ok (some password))
    (hreadable : ∀ field ∈ ["SECRET_KEY_BASE", "ZYNC_AUTHENTICATION_TOKEN"],
      ∃ found, w.store.value? (.str ns) "zync" field = .ok found)
    (habsent : w.store.field? (.str ns) "zync" "DATABASE_URL" = none) :
    resolved = .error (.options ⟨.fieldMissing "zync" "DATABASE_URL", []⟩) ∧
      ∃ before r w'', OneSecret "zync" before ∧
        before.map Policy.field =
          ["ZYNC_DATABASE_PASSWORD", "SECRET_KEY_BASE", "ZYNC_AUTHENTICATION_TOKEN"] ∧
        TableRun m ns [] w before (.ok r) w'' ∧ w' = w''.afterRead ns "zync" := by
  have hnone := Store.value?_eq_none_iff.mpr habsent
  have hfields : ∀ p ∈ zyncTable, ∃ found, w.store.value? (.str ns) "zync" p.field = .ok found := by
    simp only [zyncTable, List.forall_mem_cons] at hreadable ⊢
    exact ⟨⟨_, hpassword⟩, hreadable.1, hreadable.2.1, ⟨_, hnone⟩, by simp⟩
  cases resolved with
  | ok r =>
    have hsettled := hrun.settled zyncTable_oneSecret fun p _ => rfl
    simp only [zyncTable, List.forall_mem_cons] at hsettled
    obtain ⟨-, -, -, ⟨url, hurl⟩, -⟩ := hsettled
    rcases hurl.origin with hkept | ⟨-, hmay, -⟩
    · cases hnone.symm.trans hkept
    · cases hexternal.symm.trans hmay
  | error f =>
    obtain ⟨before, p, after, r, w'', htable, hbefore, hw', hfail⟩ := hrun.exists_of_error
    have hp : p ∈ zyncTable := by simp [htable]
    have hsecret := zyncTable_oneSecret.secret_eq p hp
    have hone : OneSecret "zync" before := (htable ▸ zyncTable_oneSecret).left
    have hfield := takeWhile_zyncFields htable
    -- the rows before have left the field of this one as it was
    have hsame : w''.store.value? (.str ns) "zync" p.field =
        w.store.value? (.str ns) "zync" p.field := by
      obtain ⟨-, calls, -, hlog⟩ := hbefore.exists_log hone.mem_fields
      rw [Store.value?, Store.value?, hlog.field?_of_not_mem]
      rw [← hfield]
      intro hmem
      simpa using List.all_eq_true.mp List.all_takeWhile _ hmem
    rw [hsecret, hsame] at hfail
    rcases hfail with hvalue | ⟨hvalue, hrequired, rfl⟩
    · obtain ⟨found, hfound⟩ := hfields p hp
      cases hfound.symm.trans hvalue
    · have hurl : p.field = "DATABASE_URL" := by
        have hmem := (isRequired_iff_databaseFields hexternal p hp).mp hrequired
        simp only [databaseFields, List.mem_cons, List.not_mem_nil, or_false] at hmem
        rcases hmem with he | he
        · rw [he, hpassword] at hvalue
          cases hvalue
        · exact he
      rw [hurl] at hfield ⊢
      exact ⟨rfl, before, r, w'', hone, hfield.symm, hbefore, by rw [hw', hsecret]⟩

section Faultless

variable (hw : w.faults = []) (hprint : (Notice.reading ns "zync").lines = .ok [])
include hw hprint

private theorem password_not_found
    (habsent : w.store.field? (.str ns) "zync" "ZYNC_DATABASE_PASSWORD" = none) :
    ∃ e, (exec (zync m (.str ns)) w).1 = .error (.options e) ∧
      e.kind = .secretNotFound "zync" "ZYNC_DATABASE_PASSWORD" := by
  obtain ⟨resolved, w', hrun, hexec⟩ := exists_tableRun m hw hprint
  have hnone := Store.value?_eq_none_iff.mpr habsent
  rw [hexec]
  unfold zyncTable at hrun
  cases hrun with
  | kept hvalue => cases hnone.symm.trans hvalue
  | made _ hrequired => cases hexternal.symm.trans hrequired
  | undecodable hvalue => cases hnone.symm.trans hvalue
  | missing => exact ⟨_, rfl, rfl⟩

/-- With the password there and the URL missing, the rows between them are resolved. -/
theorem url_not_found (password : String)
    (hpassword : w.store.value? (.str ns) "zync" "ZYNC_DATABASE_PASSWORD" = .ok (some password))
    (hreadable : ∀ field ∈ ["SECRET_KEY_BASE", "ZYNC_AUTHENTICATION_TOKEN"],
      ∃ found, w.store.value? (.str ns) "zync" field = .ok found)
    (habsent : w.store.field? (.str ns) "zync" "DATABASE_URL" = none) :
    (∃ stages, (exec (zync m (.str ns)) w).1 =
      .error (.options ⟨.fieldMissing "zync" "DATABASE_URL", stages⟩)) ∧
    ∃ calls, (exec (zync m (.str ns)) w).2.calls = w.calls ++ calls ∧
      ∀ field, (∃ c ∈ calls, c.writes field = true) ↔
        field ∈ ["SECRET_KEY_BASE", "ZYNC_AUTHENTICATION_TOKEN"] ∧
          w.store.field? (.str ns) "zync" field = none := by
  obtain ⟨resolved, w', hrun, hexec⟩ := exists_tableRun m hw hprint
  obtain ⟨rfl, before, r, w'', hone, hfields, hbefore, rfl⟩ :=
    exists_rows_before_url hexternal hrun hpassword hreadable habsent
  obtain ⟨-, calls, hcalls, hlog⟩ := hbefore.exists_log hone.mem_fields
  have hsettled := hbefore.settled hone fun p _ => rfl
  rw [hexec]
  refine ⟨⟨_, rfl⟩, calls ++ [.read (.str ns) "zync"], ?_, fun field => ?_⟩
  · simp only [World.afterRead, hcalls, List.append_assoc]
  · have hread : (∃ c ∈ calls ++ [.read (.str ns) "zync"], c.writes field = true) ↔
        ∃ c ∈ calls, c.writes field = true := by
      simp [Call.writes, or_and_right, exists_or]
    rw [hread, hlog.exists_writes_iff]
    constructor
    · rintro ⟨hnone, hpresent⟩
      refine ⟨?_, hnone⟩
      have hmem : field ∈ before.map Policy.field := by
        refine Decidable.byContradiction fun hmem => ?_
        rw [hlog.field?_of_not_mem hmem, hnone] at hpresent
        cases hpresent
      rw [hfields, List.mem_cons] at hmem
      rcases hmem with rfl | hmem
      · rw [Store.value?_eq_none_iff.mpr hnone] at hpassword
        cases hpassword
      · exact hmem
    · rintro ⟨hmem, hnone⟩
      have hmem : field ∈ before.map Policy.field := hfields ▸ List.mem_cons_of_mem _ hmem
      obtain ⟨p, hp, rfl⟩ := List.mem_map.mp hmem
      obtain ⟨value, hvalue⟩ := hsettled p hp
      refine ⟨hnone, ?_⟩
      rw [← hone.secret_eq p hp]
      exact Store.field?_isSome_of_value? hvalue.stored

end Faultless

private theorem credentials_stored_before (w : World) (ns : String) (o : ZyncOptions)
    (ho : (exec (zync m (.str ns)) w).1 = .ok o) :
    ∃ password url, o.databasePassword = .str password ∧ o.databaseUrl = .str url ∧
      w.store.value? (.str ns) "zync" "ZYNC_DATABASE_PASSWORD" = .ok (some password) ∧
      w.store.value? (.str ns) "zync" "DATABASE_URL" = .ok (some url) := by
  rw [exec_zync] at ho
  obtain ⟨r, hr, -, hchecked⟩ := exists_resolved ho
  have hstored := required_stored zyncTable_oneSecret zyncTable_silent (Prod.ext hr rfl)
  simp only [zyncTable, List.forall_mem_cons] at hstored
  obtain ⟨hpassword, -, -, hurl, -⟩ := hstored
  obtain ⟨password, hpassword, hpasswordStored⟩ := hpassword hexternal
  obtain ⟨url, hurl, hurlStored⟩ := hurl hexternal
  have hcredentials := credentials_of_checked hchecked
  simp only [ZyncOptions.credentials, ZyncSecrets.ofResolved, hpassword, hurl, Option.getD_some,
    List.cons.injEq, Prod.mk.injEq, true_and] at hcredentials
  exact ⟨password, url, hcredentials.1, hcredentials.2.2.2.1, hpasswordStored, hurlStored⟩

end External

/-- Whatever is stored and however the resolution ends, with whatever faults: password and URL of
an external database are never written, and no default of theirs plays a part. A missing password
stops the resolution before it writes anything, a missing URL after the two rows between them, and
options hold the password and the URL that were stored before. -/
theorem zync_external_database (hexternal : m.hasExternalDatabase = true) (hns : '[' ∉ ns.toList)
    (h : exec (zync m (.str ns)) w = (outcome, w')) :
    (∀ default, zyncFrom (zyncTable.map (redefault databaseFields default)) m (.str ns) =
      zync m (.str ns)) ∧
    ∃ calls, w'.calls = w.calls ++ calls ∧
      (∀ c ∈ calls, ∀ field ∈ databaseFields, c.writes field = false) ∧
      (w.store.field? (.str ns) "zync" "ZYNC_DATABASE_PASSWORD" = none →
        (∀ c ∈ calls, c = .read (.str ns) "zync") ∧ w'.store = w.store ∧
        (w.faults = [] → ∃ e, outcome = .error (.options e) ∧
          e.kind = .secretNotFound "zync" "ZYNC_DATABASE_PASSWORD")) ∧
      (w.faults = [] → ∀ password,
        w.store.value? (.str ns) "zync" "ZYNC_DATABASE_PASSWORD" = .ok (some password) →
        (∀ field ∈ ["SECRET_KEY_BASE", "ZYNC_AUTHENTICATION_TOKEN"],
          ∃ found, w.store.value? (.str ns) "zync" field = .ok found) →
        w.store.field? (.str ns) "zync" "DATABASE_URL" = none →
        (∃ e, outcome = .error (.options e) ∧ e.kind = .secretNotFound "zync" "DATABASE_URL") ∧
        ∀ field, (∃ c ∈ calls, c.writes field = true) ↔
          field ∈ ["SECRET_KEY_BASE", "ZYNC_AUTHENTICATION_TOKEN"] ∧
            w.store.field? (.str ns) "zync" field = none) ∧
      ∀ o, outcome = .ok o → ∃ password url,
        o.databasePassword = .str password ∧ o.databaseUrl = .str url ∧
        w.store.value? (.str ns) "zync" "ZYNC_DATABASE_PASSWORD" = .ok (some password) ∧
        w.store.value? (.str ns) "zync" "DATABASE_URL" = .ok (some url) := by
  have hprint : (Notice.reading ns "zync").lines = .ok [] :=
    Notice.lines_reading_of_not_mem hns (by decide)
  obtain ⟨calls, -, hcalls, hkind, -, -⟩ := zync_calls_external hexternal w
  have hpasswordAbsent := password_absent hexternal w ns
  have hpassword (hw : w.faults = []) := password_not_found hexternal hw hprint
  have hurl (hw : w.faults = []) (password : String) :=
    url_not_found hexternal hw hprint password
  have hstored (o : ZyncOptions) := credentials_stored_before hexternal w ns o
  rw [h] at hcalls hpasswordAbsent hpassword hurl hstored
  -- the log determines what was added to it
  have hsame {more : List Call} (hmore : w'.calls = w.calls ++ more) : more = calls :=
    List.append_cancel_left (hmore.symm.trans hcalls)
  refine ⟨zyncFrom_redefault hexternal, calls, hcalls, hkind, fun habsent => ?_,
    fun hw password hvalue hreadable habsent => ?_, hstored⟩
  · obtain ⟨hstore, more, hmore, hreads⟩ := hpasswordAbsent habsent
    exact ⟨hsame hmore ▸ hreads, hstore, fun hw => hpassword hw habsent⟩
  · obtain ⟨⟨stages, hfail⟩, more, hmore, hwrites⟩ := hurl hw password hvalue hreadable habsent
    exact ⟨⟨_, hfail, rfl⟩, hsame hmore ▸ hwrites⟩

/-- With a password and an empty token stored, a missing URL lets one new field through. -/
theorem zync_external_database_without_url :
    Manager.hasExternalDatabase { name := .str "own", spec := { zyncExternalDatabase := true } } =
      true ∧ '[' ∉ "test".toList ∧
    ∃ e w', exec (zync { name := .str "own", spec := { zyncExternalDatabase := true } }
        (.str "test"))
        { store := [(.str "test", [("zync", some [("ZYNC_DATABASE_PASSWORD", "cHc="),
            ("ZYNC_AUTHENTICATION_TOKEN", "")])])]
          picks := ⟨fun n => n, 0⟩ } = (.error (.options e), w') ∧
      e.kind = .secretNotFound "zync" "DATABASE_URL" ∧
      ∀ field, (∃ c ∈ w'.calls, c.writes field = true) ↔ field = "SECRET_KEY_BASE" := by
  have hexternal : Manager.hasExternalDatabase
      { name := .str "own", spec := { zyncExternalDatabase := true } } = true := rfl
  have hns : '[' ∉ "test".toList := by decide
  cases h : exec (zync { name := .str "own", spec := { zyncExternalDatabase := true } }
      (.str "test"))
      { store := [(.str "test", [("zync", some [("ZYNC_DATABASE_PASSWORD", "cHc="),
          ("ZYNC_AUTHENTICATION_TOKEN", "")])])]
        picks := ⟨fun n => n, 0⟩ } with
  | mk outcome w' =>
    obtain ⟨-, calls, hcalls, -, -, hurl, -⟩ := zync_external_database hexternal hns h
    have hreadable : ∀ field ∈ ["SECRET_KEY_BASE", "ZYNC_AUTHENTICATION_TOKEN"], ∃ found,
        Store.value? (.str "test") "zync" field [(.str "test", [("zync",
          some [("ZYNC_DATABASE_PASSWORD", "cHc="), ("ZYNC_AUTHENTICATION_TOKEN", "")])])] =
            .ok found := by
      simp only [List.forall_mem_cons]
      exact ⟨⟨none, rfl⟩, ⟨some "", rfl⟩, by simp⟩
    obtain ⟨⟨e, rfl, hkind⟩, hwrites⟩ := hurl rfl "pw" rfl hreadable rfl
    refine ⟨hexternal, hns, e, w', rfl, hkind, fun field => ?_⟩
    rw [hcalls, List.nil_append, hwrites]
    constructor
    · rintro ⟨hmem, hnone⟩
      simp only [List.mem_cons, List.not_mem_nil, or_false] at hmem
      rcases hmem with rfl | rfl
      · rfl
      · cases hnone
    · rintro rfl
      exact ⟨by simp, rfl⟩

end Resolve
end DeployOptions
