import DeployOptions.Proofs.Resolve.Success

/-! Resolutions of zync one after the other, each with a document of its own. A credential that is
once stored stays what it is, whether the resolutions succeed or fail. -/
namespace DeployOptions.Resolve
open Run

/-- The outcome of each resolution, and the world that it leaves to the next one. -/
def zyncRuns (ns : String) (w : World) : List Manager → List (Except Failure ZyncOptions × World)
  | [] => []
  | m :: r => exec (zync m (.str ns)) w :: zyncRuns ns (exec (zync m (.str ns)) w).2 r

variable {ns : String} {m : Manager} {w : World}

/-- The options of a resolution that succeeds hold what is stored after it. -/
theorem credentials_stored (hw : w.faults = []) (hprint : (Notice.reading ns "zync").lines = .ok [])
    {o : ZyncOptions} (ho : (exec (zync m (.str ns)) w).1 = .ok o) :
    ∀ c ∈ o.credentials, ∃ value, c.2 = .str value ∧
      (exec (zync m (.str ns)) w).2.store.value? (.str ns) "zync" c.1 = .ok (some value) := by
  obtain ⟨resolved, w', hrun, hexec⟩ := exists_tableRun m hw hprint
  rw [hexec] at ho ⊢
  obtain ⟨r, rfl, -, hchecked⟩ := exists_resolved ho
  have hsettled := hrun.settled Policy.zyncTable_oneSecret fun p _ => rfl
  simp only [Policy.zyncTable, List.forall_mem_cons] at hsettled
  obtain ⟨⟨password, hpassword⟩, ⟨keyBase, hkeyBase⟩, ⟨token, htoken⟩, ⟨url, hurl⟩, -⟩ := hsettled
  rw [credentials_of_checked hchecked]
  simp only [ZyncSecrets.ofResolved, hpassword.resolved, hkeyBase.resolved, htoken.resolved,
    hurl.resolved, Option.getD_some]
  intro c hc
  simp only [List.mem_cons, List.not_mem_nil, or_false] at hc
  rcases hc with rfl | rfl | rfl | rfl
  · exact ⟨password, rfl, hpassword.stored⟩
  · exact ⟨keyBase, rfl, hkeyBase.stored⟩
  · exact ⟨token, rfl, htoken.stored⟩
  · exact ⟨url, rfl, hurl.stored⟩

/-- All resolutions together only add careful calls to the log. -/
theorem exists_log_zyncRuns (hw : w.faults = [])
    (hprint : (Notice.reading ns "zync").lines = .ok []) (managers : List Manager) :
    ∀ run ∈ zyncRuns ns w managers, run.2.faults = [] ∧
      ∃ calls, run.2.calls = w.calls ++ calls ∧
        CarefulLog ns "zync" Policy.zyncFields w.store calls run.2.store := by
  induction managers generalizing w with
  | nil => simp [zyncRuns]
  | cons m managers ih =>
    obtain ⟨hfaults, calls, hcalls, hlog⟩ := exists_log_zync m hw hprint
    intro run hrun
    rcases List.mem_cons.mp hrun with rfl | hrun
    · exact ⟨hfaults, calls, hcalls, hlog⟩
    · obtain ⟨hlater, more, hmore, hrest⟩ := ih hfaults run hrun
      refine ⟨hlater, calls ++ more, ?_, hlog.append hrest⟩
      rw [hmore, hcalls, List.append_assoc]

/-- Each resolution follows on those before it by careful calls. -/
theorem pairwise_zyncRuns (hw : w.faults = [])
    (hprint : (Notice.reading ns "zync").lines = .ok []) (managers : List Manager) :
    (zyncRuns ns w managers).Pairwise fun run later =>
      ∃ calls, later.2.calls = run.2.calls ++ calls ∧
        CarefulLog ns "zync" Policy.zyncFields run.2.store calls later.2.store := by
  induction managers generalizing w with
  | nil => exact List.Pairwise.nil
  | cons m managers ih =>
    obtain ⟨hfaults, -⟩ := exists_log_zync m hw hprint
    refine List.Pairwise.cons (fun later hlater => ?_) (ih hfaults)
    exact (exists_log_zyncRuns hfaults hprint managers later hlater).2

theorem zyncRuns_credentials (hw : w.faults = [])
    (hprint : (Notice.reading ns "zync").lines = .ok []) (managers : List Manager) :
    ∀ run ∈ zyncRuns ns w managers, ∀ o, run.1 = .ok o → ∀ c ∈ o.credentials, ∃ value,
      c.2 = .str value ∧ run.2.store.value? (.str ns) "zync" c.1 = .ok (some value) := by
  induction managers generalizing w with
  | nil => simp [zyncRuns]
  | cons m managers ih =>
    obtain ⟨hfaults, -⟩ := exists_log_zync m hw hprint
    intro run hrun
    rcases List.mem_cons.mp hrun with rfl | hrun
    · exact fun o ho => credentials_stored hw hprint ho
    · exact ih hfaults run hrun

/-- What is stored determines the credentials of options that hold it. -/
theorem credentials_eq {s : Store} {o o' : ZyncOptions}
    (h : ∀ c ∈ o.credentials, ∃ value, c.2 = .str value ∧
      s.value? (.str ns) "zync" c.1 = .ok (some value))
    (h' : ∀ c ∈ o'.credentials, ∃ value, c.2 = .str value ∧
      s.value? (.str ns) "zync" c.1 = .ok (some value)) :
    o'.credentials = o.credentials := by
  have heq {field : String} {a b : Value}
      (ha : ∃ value, a = .str value ∧ s.value? (.str ns) "zync" field = .ok (some value))
      (hb : ∃ value, b = .str value ∧ s.value? (.str ns) "zync" field = .ok (some value)) :
      b = a := by
    obtain ⟨value, rfl, hvalue⟩ := ha
    obtain ⟨value', rfl, hvalue'⟩ := hb
    rw [hvalue] at hvalue'
    rw [Option.some.inj (Except.ok.inj hvalue')]
  simp only [ZyncOptions.credentials, List.forall_mem_cons] at h h'
  obtain ⟨hpassword, hkeyBase, htoken, hurl, -⟩ := h
  obtain ⟨hpassword', hkeyBase', htoken', hurl', -⟩ := h'
  rw [ZyncOptions.credentials, heq hpassword hpassword', heq hkeyBase hkeyBase',
    heq htoken htoken', heq hurl hurl']
  rfl

/-- Once a resolution has succeeded, so does every later one whose images can be used. -/
theorem exists_ok_zyncRuns (hw : w.faults = [])
    (hprint : (Notice.reading ns "zync").lines = .ok []) (managers : List Manager)
    (himages : ∀ m' ∈ m :: managers, ∀ v ∈ imageOverrides m', v = .null ∨ ∃ s, v = .str s)
    (hfilled : ∀ m' ∈ managers, ∀ v ∈ imageOverrides m', v ≠ .str "")
    (ho : ∃ o, (exec (zync m (.str ns)) w).1 = .ok o) :
    ∀ run ∈ zyncRuns ns w (m :: managers), ∃ o, run.1 = .ok o := by
  induction managers generalizing m w with
  | nil =>
    intro run hrun
    rw [List.mem_singleton.mp hrun]
    exact ho
  | cons m' managers ih =>
    obtain ⟨hfaults, -⟩ := exists_log_zync m hw hprint
    rw [List.forall_mem_cons] at himages hfilled
    obtain ⟨o, ho⟩ := ho
    have hnext := exists_ok_after hw hprint himages.1 (himages.2 m' List.mem_cons_self) hfilled.1 ho
    intro run hrun
    rcases List.mem_cons.mp hrun with rfl | hrun
    · exact ⟨o, ho⟩
    · exact ih hfaults himages.2 hfilled.2 hnext run hrun

/-- Whatever documents are resolved one after the other, and however each resolution ends: no
stored text of the zync secret changes, no field is written twice, and the secret is created once
at most, where there was none. Options hold what a lookup finds after them, and from the first
success on all credentials are the same and nothing is written any more. -/
theorem zync_credentials_stable (hns : '[' ∉ ns.toList) (hw : w.faults = [])
    (managers : List Manager) :
    (∀ run ∈ zyncRuns ns w managers, ∃ log, run.2.calls = w.calls ++ log ∧
      run.2.store = w.store.replay log ∧
      (∀ before mid after, log = before ++ mid ++ after → ∀ field text,
        (w.store.replay before).field? (.str ns) "zync" field = some text →
          (w.store.replay (before ++ mid)).field? (.str ns) "zync" field = some text) ∧
      (∀ field, log.countP (Call.writes field) ≤ 1) ∧
      log.countP Call.creates ≤ 1 ∧
      ((w.store.secret? (.str ns) "zync").isSome → log.countP Call.creates = 0)) ∧
    (∀ run ∈ zyncRuns ns w managers, ∀ o, run.1 = .ok o → ∀ c ∈ o.credentials, ∃ value,
      c.2 = .str value ∧
        (exec (Secret.lookup (.str ns) "zync" c.1) run.2).1 = .ok (some value)) ∧
    (zyncRuns ns w managers).Pairwise fun run later => ∀ o, run.1 = .ok o →
      (∀ o', later.1 = .ok o' → o'.credentials = o.credentials) ∧
      later.2.store = run.2.store ∧
      ∃ reads, later.2.calls = run.2.calls ++ reads ∧ ∀ c ∈ reads, c = .read (.str ns) "zync" := by
  have hprint : (Notice.reading ns "zync").lines = .ok [] :=
    Notice.lines_reading_of_not_mem hns (by decide)
  have hlogs := exists_log_zyncRuns hw hprint managers
  have hstored := zyncRuns_credentials hw hprint managers
  refine ⟨fun run hrun => ?_, fun run hrun o ho c hc => ?_, ?_⟩
  · obtain ⟨-, log, hcalls, hlog⟩ := hlogs run hrun
    refine ⟨log, hcalls, hlog.eq_replay, ?_, hlog.countP_writes_le_one, hlog.countP_creates_le_one,
      hlog.countP_creates_eq_zero⟩
    rintro before mid after rfl field text hfield
    rw [List.append_assoc] at hlog
    obtain ⟨-, hrest⟩ := hlog.of_append
    obtain ⟨hmid, -⟩ := hrest.of_append
    rw [Store.replay, List.foldl_append]
    exact hmid.field?_eq hfield
  · obtain ⟨hfaults, -⟩ := hlogs run hrun
    obtain ⟨value, hc, hvalue⟩ := hstored run hrun o ho c hc
    exact ⟨value, hc, by rw [Secret.exec_lookup hfaults hprint]; exact hvalue⟩
  · refine (pairwise_zyncRuns hw hprint managers).imp_of_mem ?_
    rintro run later hrun hlater ⟨calls, hcalls, hlog⟩ o ho
    -- after a success every field is present, so what follows can only read
    have hrunStored := hstored run hrun o ho
    have hpresent : ∀ field ∈ Policy.zyncFields,
        (run.2.store.field? (.str ns) "zync" field).isSome := by
      intro field hfield
      have hfields : o.credentials.map Prod.fst = Policy.zyncFields := rfl
      rw [← hfields] at hfield
      obtain ⟨c, hc, rfl⟩ := List.mem_map.mp hfield
      obtain ⟨value, -, hvalue⟩ := hrunStored c hc
      exact Store.field?_isSome_of_value? hvalue
    obtain ⟨hstore, hreads⟩ := hlog.eq_read hpresent
    refine ⟨fun o' ho' => ?_, hstore, calls, hcalls, hreads⟩
    exact credentials_eq hrunStored (hstore ▸ hstored later hlater o' ho')

/-- An own database, then an external one, then the own one again: all three resolutions succeed,
and after the first nothing changes. -/
theorem zync_credentials_stable_other_database :
    let runs := zyncRuns "test" { picks := ⟨fun n => n * n, 0⟩ } [{ name := .str "own" },
      { name := .str "other", spec := { zyncExternalDatabase := true } }, { name := .str "own" }]
    (∀ run ∈ runs, ∃ o, run.1 = .ok o) ∧
    runs.Pairwise fun run later => ∃ o o', run.1 = .ok o ∧ later.1 = .ok o' ∧
      o'.credentials = o.credentials ∧ later.2.store = run.2.store := by
  intro runs
  have hns : '[' ∉ "test".toList := by decide
  have hw : ({ picks := ⟨fun n => n * n, 0⟩ } : World).faults = [] := rfl
  have hfirst := exists_ok_of_empty (m := { name := .str "own" }) (by simp [imageOverrides]) rfl
    (by simp [imageOverrides]) hns (by decide) ⟨fun n => n * n, 0⟩
  have hall : ∀ run ∈ runs, ∃ o, run.1 = .ok o :=
    exists_ok_zyncRuns hw (Notice.lines_reading_of_not_mem hns (by decide)) _
      (by simp [imageOverrides]) (by simp [imageOverrides]) hfirst
  obtain ⟨-, -, hpairs⟩ := zync_credentials_stable hns hw [{ name := .str "own" },
    { name := .str "other", spec := { zyncExternalDatabase := true } }, { name := .str "own" }]
  refine ⟨hall, hpairs.imp_of_mem fun hrun hlater hpair => ?_⟩
  obtain ⟨o, ho⟩ := hall _ hrun
  obtain ⟨o', ho'⟩ := hall _ hlater
  obtain ⟨hsame, hstore, -⟩ := hpair o ho
  exact ⟨o, o', ho, ho', hsame o' ho', hstore⟩

end DeployOptions.Resolve
