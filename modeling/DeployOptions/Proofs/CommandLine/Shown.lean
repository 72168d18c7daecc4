import DeployOptions.Proofs.Cluster
import DeployOptions.Proofs.CommandLine.Call
import DeployOptions.Proofs.Console.Panel
import DeployOptions.Proofs.Resolve.Secrecy
import DeployOptions.Proofs.Resolve.Success

/-! Options are shown once they are resolved, where their summary is plain text; and then the call
ends well. -/
namespace DeployOptions
open Run Console

/-- A panel of these rows can be printed. -/
def Summary.isPlain (summary : Summary) : Bool :=
  summary.all fun (label, value) => Console.isPlain (label ++ ":").toList &&
    match value with
    | .str s => Console.isPlain s.toList
    | _ => false

theorem Summary.isPlain_iff {summary : Summary} : summary.isPlain = true ↔
    ∀ r ∈ summary, Console.isPlain (r.1 ++ ":").toList = true ∧
      ∃ s, r.2 = .str s ∧ Console.isPlain s.toList = true := by
  rw [isPlain, List.all_eq_true]
  refine forall₂_congr fun ⟨label, value⟩ _ => ?_
  cases value <;> simp

def Store.ofPassword (ns password : String) : Store :=
  [(.str ns, [("zync", some [("ZYNC_DATABASE_PASSWORD", Secret.encode password)])])]

theorem Store.field?_ofPassword (ns password field : String) :
    (ofPassword ns password).field? (.str ns) "zync" field =
      if "ZYNC_DATABASE_PASSWORD" = field then some (Secret.encode password) else none := by
  simp [ofPassword, field?, secret?, secretsIn, Assoc.get?, Value.sameKey_str]

/-- Which password it is makes no difference to what is there. -/
theorem Store.samePresence_ofPassword (ns : String) (k : Value) (password password' : String) :
    (ofPassword ns password).SamePresence k "zync" zyncFields (ofPassword ns password') where
  isSome := by
    simp only [ofPassword, secret?, secretsIn]
    split <;> rfl
  field? field _ := by
    simp only [ofPassword, field?, secret?, secretsIn]
    split
    · simp only [Assoc.get?, if_true, Option.bind_some, id_eq]
      split <;> rfl
    · rfl

/-- A document in a namespace with an internal database and default images, whose options have a
summary that can be printed. -/
def Manager.isPlain (ns : String) (m : Manager) : Bool :=
  m.namespaceName.sameKey (.str ns) && !m.hasExternalDatabase &&
    (Resolve.imageOverrides m).all (· matches .null) &&
    -- the summary shows no credentials, so any will do here
    match Resolve.checkedZyncOptions m (.str ns) ⟨"a", "b", "c", "d"⟩ with
    | .error _ => false
    | .ok o =>
      match o.summary with
      | .error _ => false
      | .ok summary => summary.isPlain

theorem Manager.of_isPlain {m : Manager} {ns : String} (h : m.isPlain ns = true) :
    m.namespaceName = .str ns ∧ m.hasExternalDatabase = false ∧
      (∀ v ∈ Resolve.imageOverrides m, v = .null) ∧
      ∃ secrets o summary, Resolve.checkedZyncOptions m (.str ns) secrets = .ok o ∧
        o.summary = .ok summary ∧ summary.isPlain = true := by
  simp only [isPlain, Bool.and_eq_true, Bool.not_eq_true', List.all_eq_true] at h
  obtain ⟨⟨⟨hnamespace, hinternal⟩, himages⟩, hsummary⟩ := h
  refine ⟨Value.sameKey_str.mp hnamespace, hinternal, fun v hv => ?_, ?_⟩
  · have hmatches := himages v hv
    split at hmatches
    · rfl
    · cases hmatches
  · split at hsummary
    · cases hsummary
    · next o ho =>
      split at hsummary
      · cases hsummary
      · next summary hshown => exact ⟨_, o, summary, ho, hshown, hsummary⟩

namespace CommandLine

def announcement (t : Resolve.Target) : Notice :=
  .success ("Resolved " ++ highlight t.name ++ " options")

def summaryPanel (t : Resolve.Target) (summary : Summary) : Notice :=
  .panel (t.name ++ " options") summary

variable {m : Manager} {k : Value} {select : Bool} {t : Resolve.Target} {r : Record} {w w' : World}

/-- Once a record is resolved, this is said, and all that is left is to show it. -/
theorem exec_resolveAndShow (h : exec (Resolve.record m k select t) w = (.ok r, w')) :
    exec (resolveAndShow m k select t) w =
      exec (do
        let summary ← Run.ofExcept r.summary
        say (summaryPanel t summary))
        { w' with notices := w'.notices ++ [announcement t] } := by
  obtain ⟨rows, hrows⟩ : ∃ rows, (announcement t).lines = .ok rows :=
    Notice.lines_success (by decide) (by cases t <;> decide) (by decide)
  exact (exec_bind_ok h _).trans (exec_bind_ok (exec_say_of_lines hrows _) _)

theorem exists_shown_of_record {summary : Summary}
    (hrecord : exec (Resolve.record m k select t) w = (.ok r, w'))
    (hsummary : r.summary = .ok summary) (hplain : summary.isPlain = true) :
    ∃ u, exec (resolveAndShow m k select t) w = (.ok (), u) := by
  obtain ⟨lines, hpanel⟩ : ∃ lines, (summaryPanel t summary).lines = .ok lines :=
    Notice.lines_panel (by cases t <;> decide) (Summary.isPlain_iff.mp hplain)
  rw [exec_resolveAndShow hrecord, hsummary]
  exact ⟨_, exec_say_of_lines hpanel _⟩

/-- A call that resolves options and shows them ends well. -/
theorem status_run_of_shown (registry : Registry) {args : List String} {a : Arguments}
    (hresolving : resolving? w.folder args = some a)
    (hmanager : w.folder.manager (a.operands.headD "") = .ok m)
    (hnamed : (namespaceFor a m).isTruthy = true)
    (hshow : exec (resolveAndShow m (namespaceFor a m) (a.has "select") (targetFor a)) w =
      (.ok (), w')) :
    ((run registry args).run w).1.status = 0 := by
  have hcases := run_cases registry args w.folder
  rw [hresolving] at hcases
  rw [hcases w rfl, resolveOptions_of_shown hmanager hnamed hshow]

/-- The options of a plain document are resolved and shown where nothing but a password is
stored. -/
theorem exists_shown_password {ns password : String} (hm : m.isPlain ns = true)
    (hns : '[' ∉ ns.toList) (hnamed : ns ≠ "") (hpassword : password ≠ "")
    (hfaults : w.faults = []) (hkube : w.kube = {}) (hstore : w.store = .ofPassword ns password) :
    ∃ u, exec (resolveAndShow m (.str ns) false .zync) w = (.ok (), u) := by
  obtain ⟨-, hinternal, himages, secrets, o, summary, ho, hsummary, hplain⟩ := Manager.of_isPlain hm
  have hconnect := Cluster.exec_connect (w := w) (by rw [hkube]) (by rw [hkube])
    (by rw [hkube]; decide)
  generalize hv : ({ w with kubeCalls := _, notices := _ } : World) = v at hconnect
  have hfield (field : String) : v.store.field? (.str ns) "zync" field =
      if "ZYNC_DATABASE_PASSWORD" = field then some (Secret.encode password) else none := by
    rw [← hv]
    exact hstore ▸ Store.field?_ofPassword ns password field
  have hprint : (Notice.reading ns "zync").lines = .ok [] :=
    Notice.lines_reading_of_not_mem hns (by decide)
  have hzync : ∃ o, (exec (Resolve.zync m (.str ns)) v).1 = .ok o := by
    refine Resolve.success_of (by rw [← hv]; exact hfaults) hprint
      (fun v hv => .inl (himages v hv)) ?_ ?_ ?_ ?_ hnamed
    · intro field _ text htext
      rw [hfield] at htext
      split at htext
      · cases htext
        exact ⟨password, Secret.decode_encode _ _ _ _, hpassword⟩
      · cases htext
    · intro hexternal
      cases hinternal.symm.trans hexternal
    · intro url hurl
      obtain ⟨text, htext, -⟩ := Store.exists_field?_of_value? hurl
      rw [hfield, if_neg (by decide)] at htext
      cases htext
    · intro v hv
      rw [himages v hv]
      nofun
  obtain ⟨made, hmade⟩ := hzync
  have hrecord : exec (Resolve.record m (.str ns) false .zync) w =
      (.ok (.zync made), (exec (Resolve.zync m (.str ns)) v).2) := by
    have hexec : exec (Resolve.zync m (.str ns)) v =
        (.ok made, (exec (Resolve.zync m (.str ns)) v).2) := Prod.ext hmade rfl
    unfold Resolve.record
    rw [exec_bind_ok hconnect, exec_bind_ok hexec]
    rfl
  rw [Resolve.exec_zync] at hmade
  obtain ⟨r, -, -, hchecked⟩ := Resolve.exists_resolved hmade
  exact exists_shown_of_record hrecord
    ((Resolve.summary_of_checked hchecked ho).trans hsummary) hplain

/-- A call that resolves the credentials of a plain document ends well where nothing but a password
is stored. -/
theorem status_of_password (registry : Registry) (password : String) {f : Folder}
    {args : List String} {path ns : String}
    (hargs : (resolving? f args).map (fun a =>
      (a.operands, a.value? "namespace", a.value? "component", a.has "select")) =
        some ([path], none, some "zync", false))
    (hdocument : (f.manager path).toOption.any (Manager.isPlain ns) = true)
    (hns : '[' ∉ ns.toList) (hnamed : ns ≠ "") (hpassword : password ≠ "")
    (hfolder : w.folder = f) (hfaults : w.faults = []) (hkube : w.kube = {})
    (hstore : w.store = .ofPassword ns password) :
    ((run registry args).run w).1.status = 0 := by
  subst hfolder
  obtain ⟨a, hresolving, ha⟩ := Option.map_eq_some_iff.mp hargs
  simp only [Prod.mk.injEq] at ha
  obtain ⟨hoperands, hgiven, hcomponent, hselect⟩ := ha
  obtain ⟨m, hmanager, hm⟩ := exists_of_toOption_any hdocument
  have hnamespace : namespaceFor a m = .str ns := by
    rw [namespaceFor, hgiven, (Manager.of_isPlain hm).1]
  have htarget : targetFor a = .zync := by
    rw [targetFor, hcomponent]
    rfl
  obtain ⟨u, hshow⟩ := exists_shown_password hm hns hnamed hpassword hfaults hkube hstore
  have hshown : exec (resolveAndShow m (namespaceFor a m) (a.has "select") (targetFor a)) w =
      (.ok (), u) := by
    rw [hnamespace, hselect, htarget]
    exact hshow
  refine status_run_of_shown (m := m) registry hresolving ?_ ?_ hshown
  · rw [hoperands]
    exact hmanager
  · rw [hnamespace]
    exact Value.isTruthy_str.mpr hnamed

end CommandLine
end DeployOptions
