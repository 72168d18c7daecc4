import DeployOptions.World

/-! The outcome of an operation in a world and the world that it leaves, step by step. -/
namespace DeployOptions

variable {α β : Type}

def Failure.inStage (stage : String) : Failure → Failure
  | .options e => .options (e.withContext stage)
  | f => f

/-- What has a result has one at every step. -/
theorem exists_of_bind_ok {e : Except Failure α} {next : α → Except Failure β} {b : β}
    (h : e >>= next = .ok b) : ∃ a, e = .ok a ∧ next a = .ok b := by
  cases e with
  | error f => cases h
  | ok a => exact ⟨a, rfl, h⟩

/-- What fails does so at one of its steps. -/
theorem exists_of_bind_error {e : Except Failure α} {next : α → Except Failure β} {f : Failure}
    (h : e >>= next = .error f) : e = .error f ∨ ∃ a, e = .ok a ∧ next a = .error f := by
  cases e with
  | error g =>
    cases h
    exact .inl rfl
  | ok a => exact .inr ⟨a, rfl, h⟩

/-- A result that passes a test is one. -/
theorem exists_of_toOption_any {e : Except Failure α} {p : α → Bool}
    (h : e.toOption.any p = true) : ∃ a, e = .ok a ∧ p a = true := by
  cases e with
  | error f => cases h
  | ok a => exact ⟨a, rfl, h⟩

namespace Run

/-- The outcome of an operation, and the world after it. -/
def exec (r : Run α) (w : World) : Except Failure α × World := (r.run).run w

@[simp] theorem exec_pure (a : α) (w : World) : exec (pure a) w = (.ok a, w) := rfl

@[simp] theorem exec_get (w : World) : exec get w = (.ok w, w) := rfl

@[simp] theorem exec_modify (f : World → World) (w : World) :
    exec (modify f) w = (.ok ⟨⟩, f w) := rfl

/-- Goes on after a step that has a result. -/
theorem exec_bind_ok {r : Run α} {w w' : World} {a : α} (h : exec r w = (.ok a, w'))
    (next : α → Run β) : exec (r >>= next) w = exec (next a) w' := by
  unfold exec at h ⊢
  rw [ExceptT.run_bind, StateT.run_bind, h]
  rfl

/-- Stops after a step that fails. -/
theorem exec_bind_error {r : Run α} {w w' : World} {f : Failure} (h : exec r w = (.error f, w'))
    (next : α → Run β) : exec (r >>= next) w = (.error f, w') := by
  unfold exec at h ⊢
  rw [ExceptT.run_bind, StateT.run_bind, h]
  rfl

/-- What has a result after two steps has one after the first. -/
theorem exists_of_exec_bind_ok {r : Run α} {next : α → Run β} {w w' : World} {b : β}
    (h : exec (r >>= next) w = (.ok b, w')) :
    ∃ a w'', exec r w = (.ok a, w'') ∧ exec (next a) w'' = (.ok b, w') := by
  cases hr : exec r w with
  | mk outcome w'' =>
    cases outcome with
    | error f =>
      rw [exec_bind_error hr] at h
      cases h
    | ok a =>
      rw [exec_bind_ok hr] at h
      exact ⟨a, w'', rfl, h⟩

/-- What fails after two steps has failed at one of them. -/
theorem exists_of_exec_bind_error {r : Run α} {next : α → Run β} {w w' : World} {f : Failure}
    (h : exec (r >>= next) w = (.error f, w')) :
    exec r w = (.error f, w') ∨
      ∃ a w'', exec r w = (.ok a, w'') ∧ exec (next a) w'' = (.error f, w') := by
  cases hr : exec r w with
  | mk outcome w'' =>
    cases outcome with
    | error g =>
      rw [exec_bind_error hr] at h
      cases h
      exact .inl rfl
    | ok a =>
      rw [exec_bind_ok hr] at h
      exact .inr ⟨a, w'', rfl, h⟩

@[simp] theorem exec_ofExcept (e : Except Failure α) (w : World) :
    exec (ofExcept e) w = (e, w) := by
  cases e <;> rfl

/-- What is caught has left the world as it was when it failed. -/
theorem exec_tryCatch (r : Run α) (handle : Failure → Run α) (w : World) :
    exec (tryCatch r handle) w =
      match exec r w with
      | (.ok a, w') => (.ok a, w')
      | (.error f, w') => exec (handle f) w' := by
  simp only [exec, tryCatch, tryCatchThe, MonadExceptOf.tryCatch, ExceptT.tryCatch,
    ExceptT.run, ExceptT.mk, StateT.run, bind, StateT.bind]
  rcases r w with ⟨f | a, w⟩ <;> rfl

/-- A stage changes nothing but the errors that leave it. -/
theorem exec_inStage (stage : String) (r : Run α) (w : World) :
    exec (inStage stage r) w = ((exec r w).1.mapError (Failure.inStage stage), (exec r w).2) := by
  rw [inStage, exec_tryCatch]
  rcases exec r w with ⟨f | a, w'⟩
  · cases f <;> rfl
  · rfl

/-- What has a result in a stage has it by itself. -/
theorem exec_of_inStage_ok {stage : String} {r : Run α} {w w' : World} {a : α}
    (h : exec (inStage stage r) w = (.ok a, w')) : exec r w = (.ok a, w') := by
  rw [exec_inStage] at h
  rcases hr : exec r w with ⟨f | a', w''⟩
  · rw [hr] at h
    cases h
  · rw [hr] at h
    cases h
    rfl

/-- An options error of a stage is one of the operation, with the name of the stage. -/
theorem exists_of_inStage_error {stage : String} {r : Run α} {w w' : World} {e : OptionsError}
    (h : exec (inStage stage r) w = (.error (.options e), w')) :
    ∃ inner, exec r w = (.error (.options inner), w') ∧ e = inner.withContext stage := by
  rw [exec_inStage] at h
  rcases hr : exec r w with ⟨f | a, w''⟩
  · rw [hr] at h
    cases f with
    | options inner =>
      cases h
      exact ⟨inner, rfl, rfl⟩
    | _ => cases h
  · rw [hr] at h
    cases h

@[simp] theorem exec_randomText (length : Nat) (w : World) :
    exec (randomText length) w =
      (.ok (w.picks.take length).1, { w with picks := (w.picks.take length).2 }) := rfl

/-- What is said stands among the notices even where it cannot be printed. -/
theorem exec_say (n : Notice) (w : World) :
    exec (say n) w = (n.lines.map fun _ => (), { w with notices := w.notices ++ [n] }) := by
  unfold say
  rw [exec_bind_ok (exec_modify _ _)]
  cases n.lines <;> rfl

/-- What can be printed is said without a failure. -/
theorem exec_say_of_lines {n : Notice} {rows : List (List Char)} (h : n.lines = .ok rows)
    (w : World) : exec (say n) w = (.ok (), { w with notices := w.notices ++ [n] }) := by
  rw [exec_say, h]
  rfl

end Run
end DeployOptions
