import DeployOptions.Proofs.Resolve.Checks
import DeployOptions.Proofs.Resolve.External
import DeployOptions.Proofs.Secret.Agreement

/-! What a failed resolution of zync leaves behind. A row that was resolved before the failure has
been stored, and all else is as it was. -/
namespace DeployOptions.Resolve
open Run Policy

/-- The zync fields that are in place before a failure: those of the rows before the one that the
cause names, and all of them where it names none. -/
def fieldsBefore : Cause → List String
  | .fieldMissing _ field => zyncFields.takeWhile (· ≠ field)
  | .fieldUndecodable field .. => zyncFields.takeWhile (· ≠ field)
  | _ => zyncFields

variable {m : Manager} {ns : String} {w w' : World} {e : OptionsError}

private theorem fieldsBefore_of_isUrlFault {c : Cause} (h : c.isUrlFault = true) :
    fieldsBefore c = zyncFields := by
  cases c <;> first | rfl | cases h

/-- A failed resolution has resolved the rows before the failure, and has stored nothing else. -/
private theorem exists_rows_before (hw : w.faults = [])
    (h : exec (zync m (.str ns)) w = (.error (.options e), w'))
    (hprint : (Notice.reading ns "zync").lines = .ok []) :
    ∃ before after r w'', zyncTable = before ++ after ∧
      before.map Policy.field = fieldsBefore e.cause ∧
      TableRun m ns [] w before (.ok r) w'' ∧ w'.store = w''.store := by
  obtain ⟨resolved, v, hrun, hexec⟩ := exists_tableRun m hw hprint
  rw [h] at hexec
  obtain ⟨hresolved, rfl⟩ := Prod.mk.inj hexec
  cases resolved with
  | error f =>
    obtain ⟨before, p, after, r, w'', htable, hbefore, hstore, hfail⟩ := hrun.exists_of_error
    refine ⟨before, p :: after, r, w'', htable, ?_, hbefore, by rw [hstore]; rfl⟩
    have hfields := takeWhile_zyncFields htable
    have hcause : fieldsBefore e.cause = zyncFields.takeWhile (· ≠ p.field) := by
      rcases hfail with hvalue | ⟨-, -, rfl⟩
      · rcases Store.value?_error hvalue with rfl | ⟨fault, rfl⟩
        · cases hresolved
        · cases hresolved
          rfl
      · cases hresolved
        rfl
    rw [hcause, hfields]
  | ok r =>
    refine ⟨zyncTable, [], r, w', by simp, ?_, hrun, rfl⟩
    cases hcheck : agreement r with
    | ok _ =>
      rw [zyncOutcome_of_agreement hcheck] at hresolved
      obtain ⟨record, fields, hcause⟩ := exists_requiredEmpty_of_checked hresolved.symm
      rw [hcause]
      rfl
    | error cause =>
      rw [zyncOutcome_of_disagreement hcheck] at hresolved
      cases hresolved
      exact (fieldsBefore_of_isUrlFault (Secret.isUrlFault_of_checkUrlPassword hcheck)).symm

/-- A resolution that fails keeps the store exactly where every row before the failure was stored
already. Otherwise the fields of these rows that were missing have been added, each with a default
of its row, and nothing else has changed. -/
theorem zync_failure_keeps (hw : w.faults = [])
    (h : exec (zync m (.str ns)) w = (.error (.options e), w')) :
    (w'.store = w.store ↔
      ∀ field ∈ fieldsBefore e.cause, (w.store.field? (.str ns) "zync" field).isSome) ∧
    (∀ k name, (k, name) ≠ (.str ns, "zync") →
      w'.store.secret? k name = w.store.secret? k name) ∧
    (∀ field, (w.store.field? (.str ns) "zync" field).isSome ∨ field ∉ fieldsBefore e.cause →
      w'.store.field? (.str ns) "zync" field = w.store.field? (.str ns) "zync" field) ∧
    ∀ p ∈ zyncTable, p.field ∈ fieldsBefore e.cause →
      w.store.field? (.str ns) "zync" p.field = none →
        ∃ value resolved v picks, exec (p.default resolved) v = (.ok value, { v with picks }) ∧
          w'.store.field? (.str ns) "zync" p.field = some (Secret.encode value) := by
  -- a namespace that breaks the spinner gives no options error, so none is excluded here
  have hprint := lines_reading_of_options (congrArg Prod.fst h)
  obtain ⟨before, after, r, w'', htable, hfields, hrun, hstore⟩ := exists_rows_before hw h hprint
  have hone : OneSecret "zync" before := (htable ▸ zyncTable_oneSecret).left
  have hsettled := hrun.settled hone fun p _ => rfl
  obtain ⟨-, calls, -, hlog⟩ := hrun.exists_log hone.mem_fields
  rw [hfields, ← hstore] at hlog
  rw [← hstore] at hsettled
  have hrow : ∀ p ∈ zyncTable, p.field ∈ fieldsBefore e.cause → p ∈ before := by
    have hnodup := zyncTable_oneSecret.fields
    rw [htable, List.map_append] at hnodup
    intro p hp hfield
    rw [htable] at hp
    rcases List.mem_append.mp hp with hp | hp
    · exact hp
    · rw [← hfields] at hfield
      exact absurd rfl ((List.nodup_append.mp hnodup).2.2 _ hfield _ (List.mem_map_of_mem hp))
  refine ⟨⟨?_, fun hall => (hlog.eq_read hall).1⟩, fun k name hne => hlog.secret?_of_ne hne, ?_, ?_⟩
  · intro hsame field hfield
    rw [← hfields] at hfield
    obtain ⟨p, hp, rfl⟩ := List.mem_map.mp hfield
    obtain ⟨value, hvalue⟩ := hsettled p hp
    rw [← hsame, ← hone.secret_eq p hp]
    exact Store.field?_isSome_of_value? hvalue.stored
  · rintro field (hpresent | habsent)
    · obtain ⟨text, htext⟩ := Option.isSome_iff_exists.mp hpresent
      rw [htext, hlog.field?_eq htext]
    · exact hlog.field?_of_not_mem habsent
  · intro p hp hfield habsent
    have hp := hrow p hp hfield
    obtain ⟨value, hvalue⟩ := hsettled p hp
    have horigin := hvalue.origin
    rw [hone.secret_eq p hp] at horigin
    rcases horigin with hkept | ⟨-, -, hsaved, resolved, v, picks, hdefault, -⟩
    · rw [Store.value?_eq_none_iff.mpr habsent] at hkept
      cases hkept
    · exact ⟨value, resolved, v, picks, hdefault, hsaved⟩

/-- With its password stored and its URL missing, an external database stops the resolution behind
the key base and the token, which stay behind. -/
theorem zync_failure_keeps_missing_url :
    let s : Store := [(.str "test", [("zync", some [("ZYNC_DATABASE_PASSWORD", "cHc=")])])]
    ∃ stages w', exec (zync { name := .str "own", spec := { zyncExternalDatabase := true } }
        (.str "test")) { store := s, picks := ⟨fun n => n, 0⟩ } =
          (.error (.options ⟨.fieldMissing "zync" "DATABASE_URL", stages⟩), w') ∧
      w'.store ≠ s ∧
      w'.store.field? (.str "test") "zync" "ZYNC_DATABASE_PASSWORD" = some "cHc=" ∧
      (∃ picks : Picks, w'.store.field? (.str "test") "zync" "SECRET_KEY_BASE" =
        some (Secret.encode (picks.take 64).1)) ∧
      (∃ picks : Picks, w'.store.field? (.str "test") "zync" "ZYNC_AUTHENTICATION_TOKEN" =
        some (Secret.encode (picks.take 16).1)) ∧
      w'.store.field? (.str "test") "zync" "DATABASE_URL" = none := by
  intro s
  let m : Manager := { name := .str "own", spec := { zyncExternalDatabase := true } }
  let w : World := { store := s, picks := ⟨fun n => n, 0⟩ }
  have hw : w.faults = [] := rfl
  have hprint : (Notice.reading "test" "zync").lines = .ok [] :=
    Notice.lines_reading_of_not_mem (by decide) (by decide)
  have hreadable : ∀ field ∈ ["SECRET_KEY_BASE", "ZYNC_AUTHENTICATION_TOKEN"], ∃ found,
      w.store.value? (.str "test") "zync" field = .ok found := by
    simp only [List.forall_mem_cons]
    exact ⟨⟨none, rfl⟩, ⟨none, rfl⟩, by simp⟩
  obtain ⟨⟨stages, herror⟩, -⟩ :=
    url_not_found (m := m) rfl hw hprint "pw" rfl hreadable rfl
  cases hexec : exec (zync m (.str "test")) w with
  | mk outcome w' =>
    rw [hexec] at herror
    obtain rfl := herror
    obtain ⟨hkept, -, hsame, hadded⟩ := zync_failure_keeps hw hexec
    -- the rows before the missing URL are those of the password, the key base and the token
    have hfields : fieldsBefore (.fieldMissing "zync" "DATABASE_URL") =
        ["ZYNC_DATABASE_PASSWORD", "SECRET_KEY_BASE", "ZYNC_AUTHENTICATION_TOKEN"] := rfl
    rw [hfields] at hkept hsame hadded
    simp only [zyncTable, List.forall_mem_cons] at hadded
    obtain ⟨-, hkeyBase, htoken, -⟩ := hadded
    refine ⟨stages, w', rfl, fun hunchanged => ?_, hsame _ (.inl rfl), ?_, ?_,
      hsame _ (.inr (by decide))⟩
    · have hpresent := hkept.mp hunchanged "SECRET_KEY_BASE" (by decide)
      cases hpresent
    · obtain ⟨_, resolved, v, picks, hdefault, hstored⟩ := hkeyBase (by decide) rfl
      cases hdefault
      exact ⟨v.picks, hstored⟩
    · obtain ⟨_, resolved, v, picks, hdefault, hstored⟩ := htoken (by decide) rfl
      cases hdefault
      exact ⟨v.picks, hstored⟩

/-- A password that was made before a key base that cannot be read stays behind. -/
theorem zync_failure_leaves_password :
    ∃ e w', exec (zync { name := .str "own" } (.str "test"))
        { store := [(.str "test", [("zync", some [("SECRET_KEY_BASE", "!")])])]
          picks := ⟨fun n => n, 0⟩ } = (.error (.options e), w') ∧
      e.kind = .secretParse ∧
      w'.store ≠ [(.str "test", [("zync", some [("SECRET_KEY_BASE", "!")])])] := by
  have hw : ({ store := [(.str "test", [("zync", some [("SECRET_KEY_BASE", "!")])])]
               picks := ⟨fun n => n, 0⟩ } : World).faults = [] := rfl
  have hprint : (Notice.reading "test" "zync").lines = .ok [] :=
    Notice.lines_reading_of_not_mem (by decide) (by decide)
  obtain ⟨resolved, w', hrun, hexec⟩ := exists_tableRun { name := .str "own" } hw hprint
  unfold zyncTable at hrun
  cases hrun with
  | kept hvalue => cases hvalue
  | missing _ hrequired => cases hrequired
  | undecodable hvalue => cases hvalue
  | @made _ _ _ _ _ _ password _ hvalue hrequired hdefault rest =>
    have hkeyBase : ∃ fault, (Store.save (.str "test") "zync" "ZYNC_DATABASE_PASSWORD" password
        [(.str "test", [("zync", some [("SECRET_KEY_BASE", "!")])])]).value? (.str "test") "zync"
          "SECRET_KEY_BASE" =
        .error (.options ⟨.fieldUndecodable "SECRET_KEY_BASE" "zync" (.str "test") fault, []⟩) := by
      rw [Store.value?_save, if_neg (by decide)]
      exact ⟨_, rfl⟩
    obtain ⟨fault, hkeyBase⟩ := hkeyBase
    cases rest with
    | kept hvalue => cases hkeyBase.symm.trans hvalue
    | made hvalue => cases hkeyBase.symm.trans hvalue
    | missing hvalue => cases hkeyBase.symm.trans hvalue
    | undecodable hvalue =>
      cases hkeyBase.symm.trans hvalue
      refine ⟨_, _, hexec, rfl, fun hsame => ?_⟩
      have hsaved : (Store.save (.str "test") "zync" "ZYNC_DATABASE_PASSWORD" password
          [(.str "test", [("zync", some [("SECRET_KEY_BASE", "!")])])]).field? (.str "test") "zync"
            "ZYNC_DATABASE_PASSWORD" = some (Secret.encode password) :=
        Store.field?_save_self _ _ _ _
      have hnone := (congrArg (Store.field? (.str "test") "zync" "ZYNC_DATABASE_PASSWORD")
        hsame).symm.trans hsaved
      cases hnone

end DeployOptions.Resolve
