import DeployOptions.CommandLine.Outcome
import DeployOptions.Proofs.Run

/-! What a call comes to: it is refused for its arguments, or it resolves options, and then it ends
well exactly where they are resolved and shown. -/
namespace DeployOptions.CommandLine
open Run

/-- The arguments with which a command is served: they can be read, do not ask for help and pass
their check. -/
def served? (c : Command) (f : Folder) (args : List String) : Option Arguments :=
  match Arguments.read c args with
  | .error _ => none
  | .ok a => if a.has helpSwitch.word then none else (a.check c f).toOption.map fun _ => a

/-- The arguments with which options are resolved, if a call comes to that. -/
def resolving? (f : Folder) (args : List String) : Option Arguments :=
  match Arguments.read .top args with
  | .error _ => none
  | .ok a =>
    if a.has helpSwitch.word || a.has "version" then none
    else
      match a.operands with
      | [] => none
      | name :: rest => if name = Command.resolve.name then served? .resolve f rest else none

/-- A command is refused for its arguments and its folder alone, or it is served. -/
private theorem runCommand_cases (c : Command) (serve : Arguments → StateM World Outcome)
    (args : List String) (f : Folder) :
    match served? c f args with
    | none => ∃ o, ∀ w : World, w.folder = f → (runCommand c serve args).run w = (o, w)
    | some a => ∀ w : World, w.folder = f → (runCommand c serve args).run w = (serve a).run w := by
  unfold runCommand served?
  cases Arguments.read c args with
  | error fault => exact ⟨_, fun w _ => rfl⟩
  | ok a =>
    cases hhelp : a.has helpSwitch.word with
    | true =>
      simp only [hhelp, if_true]
      exact ⟨_, fun w _ => rfl⟩
    | false =>
      simp only [hhelp, Bool.false_eq_true, if_false, StateT.run_bind, StateT.run_get, pure_bind]
      cases hcheck : a.check c f with
      | ok _ => exact fun w hw => by rw [hw, hcheck]
      | error refusal =>
        cases refusal with
        | misuse fault => exact ⟨.misused c fault, fun w hw => by rw [hw, hcheck]; rfl⟩
        | failure fault => exact ⟨.ofFailure fault, fun w hw => by rw [hw, hcheck]; rfl⟩

/-- Whatever the arguments, a call either resolves options or leaves the world as it is. -/
theorem run_cases (registry : Registry) (args : List String) (f : Folder) :
    match resolving? f args with
    | none => ∃ o, ∀ w : World, w.folder = f → (run registry args).run w = (o, w)
    | some a =>
      ∀ w : World, w.folder = f → (run registry args).run w = (resolveOptions a).run w := by
  unfold run resolving?
  cases Arguments.read .top args with
  | error fault => exact ⟨_, fun w _ => rfl⟩
  | ok a =>
    simp only
    cases a.has helpSwitch.word with
    | true => exact ⟨_, fun w _ => rfl⟩
    | false =>
      cases a.operands with
      | nil => cases a.has "version" <;> exact ⟨_, fun w _ => rfl⟩
      | cons name rest =>
        simp only [Bool.false_eq_true, if_false, Bool.false_or]
        by_cases hname : name ∈ Command.top.subcommandNames
        · simp only [hname, not_true_eq_false, if_false]
          cases a.has "version" with
          | true => exact ⟨_, fun w _ => rfl⟩
          | false =>
            simp only [Bool.false_eq_true, if_false]
            by_cases hresolve : name = Command.resolve.name
            · simp only [hresolve, if_true]
              exact runCommand_cases .resolve resolveOptions rest f
            · simp only [hresolve, if_false]
              have hrules := runCommand_cases .rules (fun a => return printRules registry a) rest f
              split at hrules
              · exact hrules
              · next b _ => exact ⟨printRules registry b, hrules⟩
        · have hresolve : name ≠ Command.resolve.name := by
            rintro rfl
            exact hname (by decide)
          simp only [hname, hresolve, not_false_eq_true, if_true, if_false]
          cases a.has "version" <;> exact ⟨_, fun w _ => rfl⟩

section Resolve

variable {m : Manager} {k : Value} {select : Bool} {t : Resolve.Target} {w w' : World}
  {o : Outcome} {a : Arguments}

private theorem status_ofFailure (f : Failure) : (Outcome.ofFailure f).status = 1 := by
  cases f <;> rfl

/-- What is complained about does not end well. -/
private theorem serveOptions_ok (h : exec (serveOptions m k select t) w = (.ok o, w'))
    (hstatus : o.status = 0) :
    o = {} ∧ exec (resolveAndShow m k select t) w = (.ok (), w') := by
  rw [serveOptions, exec_tryCatch] at h
  cases hshow : exec (do resolveAndShow m k select t; pure ({} : Outcome)) w with
  | mk outcome u =>
    rw [hshow] at h
    cases outcome with
    | ok o =>
      obtain ⟨_, v, hexec, hpure⟩ := exists_of_exec_bind_ok hshow
      cases hpure
      cases h
      exact ⟨rfl, hexec⟩
    | error f =>
      cases f with
      | options e =>
        obtain ⟨_, v, -, hpure⟩ := exists_of_exec_bind_ok h
        cases hpure
        cases hstatus
      | _ => cases h

def Outcome.ofServed : Except Failure Outcome → Outcome
  | .ok o => o
  | .error f => .ofFailure f

/-- Where there is no resource or no namespace, a call fails without touching the world. -/
private theorem exists_refused (h : ∀ m, w.folder.manager (a.operands.headD "") = .ok m →
      (namespaceFor a m).isTruthy = false) :
    ∃ o, o.status ≠ 0 ∧ (resolveOptions a).run w = (o, w) := by
  unfold resolveOptions
  rw [StateT.run_bind, StateT.run_get]
  simp only [pure_bind]
  cases hmanager : w.folder.manager (a.operands.headD "") with
  | error f =>
    cases f with
    | options e => exact ⟨_, Nat.one_ne_zero, rfl⟩
    | _ =>
      refine ⟨_, ?_, rfl⟩
      rw [status_ofFailure]
      exact Nat.one_ne_zero
  | ok m =>
    simp only [h m hmanager]
    exact ⟨_, by decide, rfl⟩

/-- Where there are both, options are served. -/
theorem run_resolveOptions (hmanager : w.folder.manager (a.operands.headD "") = .ok m)
    (hnamed : (namespaceFor a m).isTruthy = true) :
    (resolveOptions a).run w =
      (.ofServed (exec (serveOptions m (namespaceFor a m) (a.has "select") (targetFor a)) w).1,
        (exec (serveOptions m (namespaceFor a m) (a.has "select") (targetFor a)) w).2) := by
  unfold resolveOptions
  rw [StateT.run_bind, StateT.run_get]
  simp only [pure_bind, hmanager, hnamed, Bool.not_true, Bool.false_eq_true, if_false]
  cases hserve : exec (serveOptions m (namespaceFor a m) (a.has "select") (targetFor a)) w with
  | mk outcome w' =>
    unfold exec at hserve
    rw [StateT.run_bind, hserve]
    cases outcome <;> rfl

/-- A call that resolves options fails without touching the world, or it serves them. -/
theorem resolveOptions_cases (a : Arguments) (w : World) :
    (∃ o, o.status ≠ 0 ∧ (resolveOptions a).run w = (o, w)) ∨
      ∃ m, w.folder.manager (a.operands.headD "") = .ok m ∧
        (namespaceFor a m).isTruthy = true ∧ (resolveOptions a).run w =
          (.ofServed (exec (serveOptions m (namespaceFor a m) (a.has "select") (targetFor a)) w).1,
            (exec (serveOptions m (namespaceFor a m) (a.has "select") (targetFor a)) w).2) := by
  by_cases hready : ∃ m, w.folder.manager (a.operands.headD "") = .ok m ∧
      (namespaceFor a m).isTruthy = true
  · obtain ⟨m, hmanager, hnamed⟩ := hready
    exact .inr ⟨m, hmanager, hnamed, run_resolveOptions hmanager hnamed⟩
  · exact .inl (exists_refused fun m hmanager =>
      Bool.eq_false_iff.mpr fun hnamed => hready ⟨m, hmanager, hnamed⟩)

/-- A call that resolves options ends well only where they are shown. -/
theorem exists_shown (h : (resolveOptions a).run w = (o, w')) (hstatus : o.status = 0) :
    o = {} ∧ ∃ m, w.folder.manager (a.operands.headD "") = .ok m ∧
      (namespaceFor a m).isTruthy = true ∧
      exec (resolveAndShow m (namespaceFor a m) (a.has "select") (targetFor a)) w =
        (.ok (), w') := by
  rcases resolveOptions_cases a w with ⟨_, hfailed, hrun⟩ | ⟨m, hmanager, hnamed, hrun⟩
  · cases hrun.symm.trans h
    exact absurd hstatus hfailed
  · cases hserve : exec (serveOptions m (namespaceFor a m) (a.has "select") (targetFor a)) w with
    | mk outcome u =>
      rw [hserve] at hrun
      cases hrun.symm.trans h
      cases outcome with
      | error f =>
        rw [Outcome.ofServed, status_ofFailure] at hstatus
        cases hstatus
      | ok served =>
        obtain ⟨ho, hshow⟩ := serveOptions_ok hserve hstatus
        exact ⟨ho, m, hmanager, hnamed, hshow⟩

/-- Where options are shown, the call ends well. -/
theorem resolveOptions_of_shown (hmanager : w.folder.manager (a.operands.headD "") = .ok m)
    (hnamed : (namespaceFor a m).isTruthy = true)
    (hshow : exec (resolveAndShow m (namespaceFor a m) (a.has "select") (targetFor a)) w =
      (.ok (), w')) :
    (resolveOptions a).run w = ({}, w') := by
  have hserve : exec (serveOptions m (namespaceFor a m) (a.has "select") (targetFor a)) w =
      (.ok {}, w') := by
    rw [serveOptions, exec_tryCatch, exec_bind_ok hshow]
    rfl
  rw [run_resolveOptions hmanager hnamed, hserve]
  rfl

end Resolve
end DeployOptions.CommandLine
