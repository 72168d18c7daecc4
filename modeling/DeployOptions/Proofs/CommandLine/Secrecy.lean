import DeployOptions.Proofs.CommandLine.Shown

/-! A call that resolves options shows no secret: what it says and prints depends only on which
credentials were stored, and not on their values or on random picks. -/
namespace DeployOptions.CommandLine
open Run World Policy

variable {m : Manager} {k : Value} {select : Bool} {t : Resolve.Target} {w w' : World}
  {o : Outcome}

private theorem resolveAndShow_paired :
    Paired (Alike k "zync" zyncFields) (fun _ _ => True) (resolveAndShow m k select t)
      (resolveAndShow m k select t) := by
  unfold resolveAndShow
  refine .bind (Resolve.record_paired select t) fun r r' hsummary => ?_
  rw [hsummary]
  refine .bind (say_paired _) fun _ _ _ => .bind (.of_ofExcept fun s s' h h' =>
    Except.ok.inj (h.symm.trans h')) ?_
  rintro summary _ rfl
  exact say_paired _

def targetNamespace? (f : Folder) (args : List String) : Option Value := do
  let a ← resolving? f args
  let m ← (f.manager (a.operands.headD "")).toOption
  return namespaceFor a m

/-- A call that ends well prints and says the same whatever the stored credentials and the random
picks are, as long as the same fields are there in the secret of the namespace that it is about.
Traces for debugging are no part of an outcome. -/
theorem run_reveals_no_secret (registry : Registry) (args : List String) (w : World) (s : Store)
    (p : Picks)
    (hsame : ∀ k, targetNamespace? w.folder args = some k →
      w.store.SamePresence k "zync" zyncFields s)
    (h : ((run registry args).run w).1.status = 0)
    (h' : ((run registry args).run { w with store := s, picks := p }).1.status = 0) :
    ((run registry args).run { w with store := s, picks := p }).1 =
        ((run registry args).run w).1 ∧
      ((run registry args).run { w with store := s, picks := p }).2.notices =
        ((run registry args).run w).2.notices := by
  have hcases := run_cases registry args w.folder
  split at hcases
  · -- the arguments lead to no resolution, and neither the store nor the picks are looked at
    obtain ⟨o, ho⟩ := hcases
    rw [ho w rfl, ho { w with store := s, picks := p } rfl]
    exact ⟨rfl, rfl⟩
  · next a ha =>
    rw [hcases w rfl] at h ⊢
    rw [hcases { w with store := s, picks := p } rfl] at h' ⊢
    cases hfirst : (resolveOptions a).run w with
    | mk o u =>
      cases hsecond : (resolveOptions a).run { w with store := s, picks := p } with
      | mk o' u' =>
        rw [hfirst] at h
        rw [hsecond] at h'
        obtain ⟨rfl, m, hmanager, -, hshow⟩ := exists_shown hfirst h
        obtain ⟨rfl, m', hmanager', -, hshow'⟩ := exists_shown hsecond h'
        -- both are about one document, so the hypothesis is about the secret that is resolved
        obtain rfl := Except.ok.inj (hmanager.symm.trans hmanager')
        have htarget : targetNamespace? w.folder args = some (namespaceFor a m) := by
          simp only [targetNamespace?, ha, hmanager, Except.toOption, bind, Option.bind, pure]
        obtain ⟨-, hworld⟩ := resolveAndShow_paired w { w with store := s, picks := p } _ _ _ _
          ⟨rfl, rfl, rfl, hsame _ htarget⟩ hshow hshow'
        exact ⟨rfl, hworld.notices⟩

/-- Neither another password nor other random picks make a difference to what is shown. -/
theorem run_reveals_no_secret_other_password :
    let args := ["resolve", "f", "--component", "zync"]
    let w : World := {
      folder := [("f", .file (Text.Utf8.encode
        "kind: APIManager\nmetadata:\n  name: a\n  namespace: b\n".toList))]
      store := .ofPassword "b" "first"
      picks := ⟨fun n => n, 0⟩ }
    let s := Store.ofPassword "b" "second"
    let p : Picks := ⟨fun n => n + n, 7⟩
    ((run Registry.builtIn args).run w).1.status = 0 ∧
      ((run Registry.builtIn args).run { w with store := s, picks := p }).1.status = 0 ∧
      ((run Registry.builtIn args).run { w with store := s, picks := p }).1 =
          ((run Registry.builtIn args).run w).1 ∧
        ((run Registry.builtIn args).run { w with store := s, picks := p }).2.notices =
          ((run Registry.builtIn args).run w).2.notices := by
  intro args w s p
  have hargs : (resolving? w.folder args).map (fun a =>
      (a.operands, a.value? "namespace", a.value? "component", a.has "select")) =
        some (["f"], none, some "zync", false) := by
    decide +kernel
  have hdocument : (w.folder.manager "f").toOption.any (Manager.isPlain "b") = true := by
    decide +kernel
  have hfirst : ((run Registry.builtIn args).run w).1.status = 0 :=
    status_of_password Registry.builtIn "first" hargs hdocument
      (by decide) (by decide) (by decide) rfl rfl rfl rfl
  have hsecond : ((run Registry.builtIn args).run { w with store := s, picks := p }).1.status = 0 :=
    status_of_password Registry.builtIn "second" hargs hdocument
      (by decide) (by decide) (by decide) rfl rfl rfl rfl
  exact ⟨hfirst, hsecond, run_reveals_no_secret Registry.builtIn args w s p
    (fun k _ => Store.samePresence_ofPassword "b" k "first" "second") hfirst hsecond⟩

end DeployOptions.CommandLine
