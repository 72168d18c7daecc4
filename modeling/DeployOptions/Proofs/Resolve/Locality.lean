import DeployOptions.Proofs.Resolve.Zync
import DeployOptions.Proofs.Secret.Locality

/-! The resolution of zync is about one secret: it depends on no other entry of the store, calls for
no other, and leaves every other as it is. -/
namespace DeployOptions

namespace Policy
open Run

/-- No default of zync looks at the store. -/
theorem zyncTable_blind : ∀ p ∈ zyncTable, p.Blind := by
  simp only [zyncTable, List.forall_mem_cons]
  refine ⟨fun _ _ _ => rfl, fun _ _ _ => rfl, fun _ _ _ => rfl, fun resolved w s => ?_, by simp⟩
  -- the URL looks only at what an earlier row has given
  cases hpassword : Assoc.get? "database_password" resolved with
  | none =>
    have hearlier (w : World) : exec (earlier "database_password" resolved) w =
        (.error (.undefinedName "database_password"), w) := by
      rw [earlier, hpassword]
      rfl
    rw [exec_bind_error (hearlier _), exec_bind_error (hearlier _)]
  | some password =>
    have hearlier (w : World) : exec (earlier "database_password" resolved) w =
        (.ok password, w) := by
      rw [earlier, hpassword]
      rfl
    rw [exec_bind_ok (hearlier _), exec_bind_ok (hearlier _)]
    rfl

end Policy

namespace Resolve
open Run Policy

variable {m : Manager} {ns : String} {w : World} {s : Store}

/-- The resolution of zync has the same outcome and makes the same calls in any two stores that
agree on whether the secret is there and on the texts of its four fields. All its calls are about
that secret, and it changes nothing in either store but to add what is missing of these fields. -/
theorem zync_local (hns : '[' ∉ ns.toList) (hw : w.faults = [])
    (hsame : w.store.SameFields ns "zync" zyncFields s) :
    ∃ outcome w' s', exec (zync m (.str ns)) w = (outcome, w') ∧
      exec (zync m (.str ns)) { w with store := s } = (outcome, { w' with store := s' }) ∧
      (∃ calls, w'.calls = w.calls ++ calls ∧ ∀ c ∈ calls, c.target = (.str ns, "zync")) ∧
      w.store.Filled ns "zync" zyncFields w'.store ∧ s.Filled ns "zync" zyncFields s' := by
  have hprint : (Notice.reading ns "zync").lines = .ok [] :=
    Notice.lines_reading_of_not_mem hns (by decide)
  obtain ⟨resolved, w', hrun, hexec⟩ := exists_tableRun m hw hprint
  obtain ⟨s', hother⟩ := hrun.transfer zyncTable_oneSecret.mem_fields zyncTable_blind hsame
  obtain ⟨-, calls, hcalls, hlog⟩ := hrun.exists_log zyncTable_oneSecret.mem_fields
  obtain ⟨-, _, -, hlog'⟩ := hother.exists_log zyncTable_oneSecret.mem_fields
  refine ⟨_, w', s', hexec, ?_, ⟨calls, hcalls, hlog.target_eq⟩, hlog.filled, hlog'.filled⟩
  rw [exec_zync, hother.exec_eq hw (zyncTable_printable hprint)]

/-- Neither a field that cannot be decoded, nor another secret, nor another namespace makes a
difference. -/
theorem zync_local_foreign_entries :
    ∃ outcome w' s',
      exec (zync { name := .str "own" } (.str "test"))
          { store := [(.str "test", [("zync", some [("OTHER", "%%"), ("SECRET_KEY_BASE", "a2V5")]),
              ("system", none)])],
            picks := ⟨fun n => n, 0⟩ } = (outcome, w') ∧
        exec (zync { name := .str "own" } (.str "test"))
          { store := [(.str "own", [("zync", none)]),
              (.str "test", [("zync", some [("SECRET_KEY_BASE", "a2V5")])])],
            picks := ⟨fun n => n, 0⟩ } = (outcome, { w' with store := s' }) ∧
        ∀ c ∈ w'.calls, c.target = (.str "test", "zync") := by
  have hns : '[' ∉ "test".toList := by decide
  obtain ⟨outcome, w', s', hrun, hother, ⟨calls, hcalls, htarget⟩, -, -⟩ :=
    zync_local (m := { name := .str "own" })
      (w := { store := [(.str "test", [("zync", some [("OTHER", "%%"), ("SECRET_KEY_BASE", "a2V5")]),
          ("system", none)])], picks := ⟨fun n => n, 0⟩ })
      (s := [(.str "own", [("zync", none)]),
          (.str "test", [("zync", some [("SECRET_KEY_BASE", "a2V5")])])])
      hns rfl ⟨rfl, by decide⟩
  refine ⟨outcome, w', s', hrun, hother, ?_⟩
  rw [hcalls]
  exact htarget

end Resolve
end DeployOptions
