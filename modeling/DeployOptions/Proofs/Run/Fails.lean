import DeployOptions.Proofs.Run

/-! What an outcome can fail for, put together from what its steps can fail for. -/
namespace DeployOptions

variable {α β : Type} {P : Failure → Prop}

/-- An outcome that is no failure, or one of the failures that `P` holds of. -/
def FailsOnly (P : Failure → Prop) (e : Except Failure α) : Prop := ∀ f, e = .error f → P f

namespace FailsOnly

theorem of_ok (a : α) : FailsOnly P (.ok a) := by
  intro f h
  cases h

theorem of_error {f : Failure} (h : P f) : FailsOnly P (.error f : Except Failure α) := by
  intro g hg
  cases hg
  exact h

theorem bind {e : Except Failure α} {next : α → Except Failure β} (h : FailsOnly P e)
    (hnext : ∀ a, FailsOnly P (next a)) : FailsOnly P (e >>= next) := by
  intro f hf
  rcases exists_of_bind_error hf with he | ⟨a, -, ha⟩
  · exact h f he
  · exact hnext a f ha

theorem map {e : Except Failure α} (h : FailsOnly P e) (g : α → β) : FailsOnly P (e.map g) := by
  cases e with
  | ok a => exact of_ok _
  | error f => exact of_error (h f rfl)

theorem mapM {g : α → Except Failure β} (l : List α) (h : ∀ a ∈ l, FailsOnly P (g a)) :
    FailsOnly P (l.mapM g) := by
  induction l with
  | nil => exact of_ok _
  | cons a l ih =>
    rw [List.forall_mem_cons] at h
    rw [List.mapM_cons]
    exact h.1.bind fun _ => (ih h.2).bind fun _ => of_ok _

/-- A failure of another kind that is turned into one that `P` holds of. -/
theorem mapError {ε : Type} {e : Except ε α} {g : ε → Failure} (h : ∀ x, P (g x)) :
    FailsOnly P (e.mapError g) := by
  cases e with
  | ok a => exact of_ok _
  | error x => exact of_error (h x)

end FailsOnly
end DeployOptions
