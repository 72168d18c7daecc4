import DeployOptions.Proofs.Run

/-! Operations that leave a part of the world as it is, however they end. -/
namespace DeployOptions.Run

variable {α β γ : Type}

/-- Whatever an operation does, what can be seen of the world through a view stays the same. -/
def Leaves (view : World → γ) (r : Run α) : Prop := ∀ w, view (exec r w).2 = view w

variable {view : World → γ} {r : Run α}

/-- Behind a step, only what that step has changed can be seen. -/
theorem view_bind {next : α → Run β} (hnext : ∀ a, (next a).Leaves view) (r : Run α)
    (w : World) : view (exec (r >>= next) w).2 = view (exec r w).2 := by
  cases hexec : exec r w with
  | mk outcome w' =>
    cases outcome with
    | error f => rw [exec_bind_error hexec]
    | ok a => rw [exec_bind_ok hexec, hnext a w']

theorem view_tryCatch {handle : Failure → Run α} (hhandle : ∀ f, (handle f).Leaves view)
    (r : Run α) (w : World) : view (exec (tryCatch r handle) w).2 = view (exec r w).2 := by
  rw [exec_tryCatch]
  cases hexec : exec r w with
  | mk outcome w' =>
    cases outcome with
    | error f => exact hhandle f w'
    | ok a => rfl

namespace Leaves

theorem of_pure (a : α) : Leaves view (pure a : Run α) := fun _ => rfl

theorem of_throw (f : Failure) : Leaves view (throw f : Run α) := fun _ => rfl

theorem of_get : Leaves view get := fun _ => rfl

theorem of_modify {f : World → World} (h : ∀ w, view (f w) = view w) :
    Leaves view (modify f) := h

theorem of_ofExcept (e : Except Failure α) : Leaves view (ofExcept e) := fun w => by
  rw [exec_ofExcept]

theorem of_say {n : Notice} (h : ∀ w notices, view { w with notices } = view w) :
    Leaves view (say n) := fun w => by
  rw [exec_say]
  exact h w _

theorem bind {next : α → Run β} (hr : r.Leaves view) (hnext : ∀ a, (next a).Leaves view) :
    Leaves view (r >>= next) := fun w => (view_bind hnext r w).trans (hr w)

end Leaves
end DeployOptions.Run
