import DeployOptions.Proofs.Run

/-! Operations that fail with nothing but options errors, as far as the stored secrets let them. -/
namespace DeployOptions

variable {α β : Type}

def Failure.isHandled : Failure → Bool
  | .options _ => true
  | _ => false

def Escapes (e : Except Failure α) : Prop := ∃ f, e = .error f ∧ f.isHandled = false

theorem not_escapes_ok (a : α) : ¬ Escapes (.ok a : Except Failure α) := by
  rintro ⟨f, h, -⟩
  cases h

theorem not_escapes_options (e : OptionsError) :
    ¬ Escapes (.error (.options e) : Except Failure α) := by
  rintro ⟨f, h, hf⟩
  cases h
  cases hf

theorem escapes_bind_iff {e : Except Failure α} {next : α → Except Failure β} :
    Escapes (e >>= next) ↔ Escapes e ∨ ∃ a, e = .ok a ∧ Escapes (next a) := by
  constructor
  · rintro ⟨f, h, hf⟩
    rcases exists_of_bind_error h with h | ⟨a, ha, h⟩
    · exact .inl ⟨f, h, hf⟩
    · exact .inr ⟨a, ha, f, h, hf⟩
  · rintro (⟨f, rfl, hf⟩ | ⟨a, rfl, h⟩)
    · exact ⟨f, rfl, hf⟩
    · exact h

/-- What never escapes can be left out at the end. -/
theorem escapes_bind_of_not {e : Except Failure α} {next : α → Except Failure β}
    (h : ∀ a, ¬ Escapes (next a)) : Escapes (e >>= next) ↔ Escapes e := by
  rw [escapes_bind_iff, or_iff_left]
  rintro ⟨a, -, hnext⟩
  exact h a hnext

/-- What names the stage of an options error leaves all other failures as they are. -/
theorem escapes_inStage_iff {stage : String} {e : Except Failure α} :
    Escapes (e.mapError (Failure.inStage stage)) ↔ Escapes e := by
  cases e with
  | ok a => rfl
  | error f =>
    cases f with
    | options e => exact iff_of_false (not_escapes_options _) (not_escapes_options _)
    | _ => rfl

namespace Run

/-- From a store with `pre`, an operation has a result and leaves a store with `post`, or it fails
with an options error. -/
def Handles (pre : Store → Prop) (r : Run α) (post : α → Store → Prop) : Prop :=
  ∀ w, pre w.store →
    match exec r w with
    | (.ok a, w') => post a w'.store
    | (.error f, _) => f.isHandled = true

namespace Handles

variable {pre : Store → Prop} {r : Run α} {post : α → Store → Prop}

theorem of_pure {a : α} (h : ∀ s, pre s → post a s) : Handles pre (pure a) post :=
  fun w hw => h w.store hw

theorem keep (a : α) : Handles pre (pure a) fun _ => pre := fun _ hw => hw

theorem of_fail (cause : Cause) : Handles pre (fail cause) post := fun _ _ => rfl

/-- What changes nothing outside fails as it may, or has its result. -/
theorem of_ofExcept {e : Except Failure α} (hok : ∀ a, e = .ok a → ∀ s, pre s → post a s)
    (herror : ∀ f, e = .error f → f.isHandled = true) : Handles pre (ofExcept e) post := by
  intro w hw
  rw [exec_ofExcept]
  cases e with
  | ok a => exact hok a rfl w.store hw
  | error f => exact herror f rfl

theorem of_say {n : Notice} {rows : List (List Char)} (h : n.lines = .ok rows) :
    Handles pre (say n) fun _ => pre := by
  intro w hw
  rw [exec_say, h]
  exact hw

theorem mono {pre' : Store → Prop} {post' : α → Store → Prop} (hr : r.Handles pre post)
    (hpre : ∀ s, pre' s → pre s) (hpost : ∀ a s, post a s → post' a s) :
    r.Handles pre' post' := by
  intro w hw
  have h := hr w (hpre _ hw)
  split at h
  · exact hpost _ _ h
  · exact h

theorem bind {next : α → Run β} {after : β → Store → Prop} (hr : r.Handles pre post)
    (hnext : ∀ a, (next a).Handles (post a) after) : Handles pre (r >>= next) after := by
  intro w hw
  have h := hr w hw
  cases hexec : exec r w with
  | mk outcome w' =>
    rw [hexec] at h
    cases outcome with
    | error f =>
      rw [exec_bind_error hexec]
      exact h
    | ok a =>
      rw [exec_bind_ok hexec]
      exact hnext a w' h

theorem not_escapes (hr : r.Handles pre post) {w : World} (hw : pre w.store) :
    ¬ Escapes (exec r w).1 := by
  rintro ⟨f, h, hf⟩
  have hhandled := hr w hw
  cases hexec : exec r w with
  | mk outcome w' =>
    rw [hexec] at h hhandled
    cases h
    rw [hhandled] at hf
    cases hf

end Handles
end Run
end DeployOptions
