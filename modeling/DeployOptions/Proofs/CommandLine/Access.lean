import DeployOptions.Proofs.Cluster
import DeployOptions.Proofs.CommandLine.Call
import DeployOptions.Proofs.Document.Acceptance

/-! What a call of the program asks of the local configuration and of the cluster. -/
namespace DeployOptions

/-- A resource that is read is the document of its file. -/
theorem Folder.exists_of_manager {f : Folder} {path : String} {m : Manager}
    (h : f.manager path = .ok m) :
    ∃ entries, f.entries path = .ok entries ∧ Manager.ofDocument (.map entries) = .ok m := by
  obtain ⟨entries, hentries, hm⟩ := exists_of_bind_ok h
  refine ⟨entries, hentries, ?_⟩
  dsimp only at hm
  split at hm
  · cases hm
  · exact hm

namespace CommandLine
open Run

/-- The namespace to work in: the given one, unless it is empty, or else what stands in the
document. -/
def workingNamespace (a : Arguments) (doc : Value) : Value :=
  match (a.value? "namespace").filter (· ≠ "") with
  | some given => .str given
  | none => doc.valueAt ["metadata", "namespace"]

/-- What a call needs before it can reach a cluster: it resolves zync, its file holds a resource,
and there is a namespace to work in. -/
structure Ready (f : Folder) (args : List String) (a : Arguments) (entries : List (Value × Value))
    (m : Manager) : Prop where
  served : resolving? f args = some a
  zync : targetFor a = .zync
  document : f.entries (a.operands.headD "") = .ok entries
  resource : f.manager (a.operands.headD "") = .ok m
  named : (workingNamespace a (.map entries)).isTruthy = true

variable {a : Arguments} {m : Manager} {k : Value} {select : Bool} {t : Resolve.Target} {w : World}
  {entries : List (Value × Value)}

/-- Where neither is given, the namespace is empty. -/
theorem namespaceFor_eq (hm : Manager.ofDocument (.map entries) = .ok m) :
    namespaceFor a m =
      if (workingNamespace a (.map entries)).isTruthy then workingNamespace a (.map entries)
      else .str "" := by
  obtain ⟨rfl, -⟩ := Document.sound_of_accepted hm
  unfold namespaceFor workingNamespace
  cases a.value? "namespace" with
  | none => rfl
  | some given =>
    by_cases hempty : given = ""
    · subst hempty
      rfl
    · have hkept : (some given).filter (· ≠ "") = some given := by simp [hempty]
      have hisEmpty : given.isEmpty = false := by simpa using hempty
      simp only [hkept, hisEmpty, Bool.false_eq_true, if_false]
      rw [if_pos (Value.isTruthy_str.mpr hempty)]

/-- What is said about a resolution asks for nothing more. -/
private theorem requests_serveOptions :
    (exec (serveOptions m k select t) w).2.requests =
      (exec (Resolve.record m k select t) w).2.requests := by
  have hshown (r : Record) : Leaves World.requests (do
      say (.success ("Resolved " ++ Console.highlight t.name ++ " options"))
      let summary ← Run.ofExcept r.summary
      say (.panel (t.name ++ " options") summary)) :=
    .bind (.of_say fun _ _ => rfl) fun _ => .bind (.of_ofExcept _) fun _ => .of_say fun _ _ => rfl
  have hcomplaint (e : OptionsError) : Leaves World.requests (do
      say (complaint e)
      pure Outcome.failed) := .bind (.of_say fun _ _ => rfl) fun _ => .of_pure _
  calc (exec (serveOptions m k select t) w).2.requests
    _ = (exec (do resolveAndShow m k select t; pure ({} : Outcome)) w).2.requests := by
        refine view_tryCatch (fun f => ?_) _ w
        cases f with
        | options e => exact hcomplaint e
        | _ => exact .of_throw _
    _ = (exec (resolveAndShow m k select t) w).2.requests := view_bind (fun _ => .of_pure _) _ w
    _ = (exec (Resolve.record m k select t) w).2.requests := view_bind hshown _ w

/-- A call that is not ready has no resource or no namespace, or needs no cluster. -/
private theorem requests_of_not_ready {args : List String}
    (h : resolving? w.folder args = some a)
    (hready : ∀ entries m, ¬ Ready w.folder args a entries m) :
    ((resolveOptions a).run w).2.requests = w.requests := by
  rcases resolveOptions_cases a w with ⟨_, -, hrun⟩ | ⟨m, hmanager, hnamed, hrun⟩
  · rw [hrun]
  · rw [hrun]
    by_cases htarget : targetFor a = .zync
    · obtain ⟨entries, hentries, hm⟩ := Folder.exists_of_manager hmanager
      rw [namespaceFor_eq hm] at hnamed
      split at hnamed
      · exact absurd ⟨h, htarget, hentries, hmanager, hnamed⟩ (hready entries m)
      · cases hnamed
    · exact requests_serveOptions.trans (Resolve.requests_record_of_ne htarget)

private theorem Ready.access {args : List String} (h : Ready w.folder args a entries m) :
    Resolve.Access m (workingNamespace a (.map entries)) (a.has "select") w
      ((resolveOptions a).run w).2 := by
  obtain ⟨found, hentries, hm⟩ := Folder.exists_of_manager h.resource
  cases hentries.symm.trans h.document
  have hnamespace : namespaceFor a m = workingNamespace a (.map entries) := by
    rw [namespaceFor_eq hm, if_pos h.named]
  rw [run_resolveOptions h.resource (hnamespace ▸ h.named), hnamespace, h.zync]
  exact (Resolve.access_record _ _ _ _).congr requests_serveOptions

/-- Only a call that is ready to reach a cluster asks the local configuration or a secret for
anything. It connects first, and then all its calls are for the secret of zync in the namespace that
it works in. -/
theorem access_of_run (registry : Registry) (args : List String) (w : World) :
    (∀ a, resolving? w.folder args = some a → targetFor a ≠ .zync →
      ((run registry args).run w).2.requests = w.requests) ∧
    ((¬ ∃ a entries m, Ready w.folder args a entries m) →
      ((run registry args).run w).2.requests = w.requests) ∧
    ∀ a entries m, Ready w.folder args a entries m →
      Resolve.Access m (workingNamespace a (.map entries)) (a.has "select") w
        ((run registry args).run w).2 := by
  have hrun := run_cases registry args w.folder
  cases hresolving : resolving? w.folder args with
  | none =>
    rw [hresolving] at hrun
    obtain ⟨o, hrun⟩ := hrun
    rw [hrun w rfl]
    exact ⟨nofun, fun _ => rfl, fun a entries m h => by cases hresolving.symm.trans h.served⟩
  | some a =>
    rw [hresolving] at hrun
    rw [hrun w rfl]
    refine ⟨fun b hb htarget => ?_, fun hready => ?_, fun b entries m h => ?_⟩
    · obtain rfl := Option.some.inj hb
      exact requests_of_not_ready hresolving fun _ _ h => htarget h.zync
    · exact requests_of_not_ready hresolving fun entries m h => hready ⟨a, entries, m, h⟩
    · obtain rfl := Option.some.inj (hresolving.symm.trans h.served)
      exact h.access

/-- The current context is loaded, and then the secret is read in the namespace that is given, not
in that of the document. -/
theorem access_of_run_other_namespace :
    let args := ["resolve", "f", "--component", "zync", "--namespace", "other"]
    let w : World := {
      folder := [("f", .file (Text.Utf8.encode
        "kind: APIManager\nmetadata:\n  name: a\n  namespace: b\n".toList))]
      picks := ⟨fun n => n, 0⟩ }
    (∃ a entries m, Ready w.folder args a entries m ∧ m.namespaceName = .str "b" ∧
      workingNamespace a (.map entries) = .str "other") ∧
    ((run Registry.builtIn args).run w).2.kubeCalls = [.listContexts, .load (.str "test")] ∧
    ∃ calls,
      ((run Registry.builtIn args).run w).2.calls = .read (.str "other") "zync" :: calls ∧
      ∀ c ∈ calls, c.target = (.str "other", "zync") := by
  intro args w
  have hargs : (resolving? w.folder args).map (fun a =>
      (a.operands, a.value? "namespace", a.value? "component", a.has "select")) =
        some (["f"], some "other", some "zync", false) := by
    decide +kernel
  have hdocument : (w.folder.manager "f").toOption.any
      (fun m => m.namespaceName.sameKey (.str "b")) = true := by
    decide +kernel
  obtain ⟨a, hserved, ha⟩ := Option.map_eq_some_iff.mp hargs
  simp only [Prod.mk.injEq] at ha
  obtain ⟨hoperands, hgiven, hcomponent, hselect⟩ := ha
  obtain ⟨m, hmanager, hnamespace⟩ := exists_of_toOption_any hdocument
  obtain ⟨entries, hentries, hm⟩ := Folder.exists_of_manager hmanager
  have hworking : workingNamespace a (.map entries) = .str "other" := by
    rw [workingNamespace, hgiven]
    rfl
  have hready : Ready w.folder args a entries m := by
    refine ⟨hserved, ?_, ?_, ?_, ?_⟩
    · rw [targetFor, hcomponent]
      rfl
    · rw [hoperands]
      exact hentries
    · rw [hoperands]
      exact hmanager
    · rw [hworking]
      rfl
  have haccess := (access_of_run Registry.builtIn args w).2.2 a entries m hready
  rw [hworking, hselect] at haccess
  exact ⟨⟨a, entries, m, hready, Value.sameKey_str.mp hnamespace, hworking⟩,
    haccess.exists_read rfl (Notice.lines_reading_of_not_mem (by decide) (by decide)) rfl rfl
      (by decide)⟩

end CommandLine
end DeployOptions
