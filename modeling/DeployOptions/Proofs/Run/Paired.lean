import DeployOptions.Proofs.Run

/-! Two operations side by side: what their results and the worlds after them have in common, where
both succeed. -/
namespace DeployOptions.Run

variable {α β γ δ : Type}

/-- From worlds that are alike, two operations that both have a result leave worlds that are alike,
and their results are related. -/
def Paired (alike : World → World → Prop) (related : α → β → Prop) (r : Run α) (r' : Run β) :
    Prop :=
  ∀ w w' a b u u', alike w w' → exec r w = (.ok a, u) → exec r' w' = (.ok b, u') →
    related a b ∧ alike u u'

namespace Paired

variable {alike : World → World → Prop} {related : α → β → Prop} {r : Run α} {r' : Run β}

theorem of_pure {a : α} {b : β} (h : related a b) : Paired alike related (pure a) (pure b) := by
  intro w w' _ _ u u' halike hr hr'
  cases hr
  cases hr'
  exact ⟨h, halike⟩

/-- What fails is alike to everything. -/
theorem of_throw (f : Failure) (r' : Run β) : Paired alike related (throw f : Run α) r' := by
  intro w w' a b u u' _ hr
  cases hr

theorem of_throw_bind (f : Failure) (next : α → Run γ) (r' : Run β) {related : γ → β → Prop} :
    Paired alike related (throw f >>= next) r' := by
  intro w w' a b u u' _ hr
  cases hr

theorem of_ofExcept {e : Except Failure α} {e' : Except Failure β}
    (h : ∀ a b, e = .ok a → e' = .ok b → related a b) :
    Paired alike related (ofExcept e) (ofExcept e') := by
  intro w w' a b u u' halike hr hr'
  rw [exec_ofExcept] at hr hr'
  obtain ⟨he, rfl⟩ := Prod.mk.inj hr
  obtain ⟨he', rfl⟩ := Prod.mk.inj hr'
  exact ⟨h a b he he', halike⟩

theorem of_get : Paired alike alike get get := by
  intro w w' _ _ u u' halike hr hr'
  cases hr
  cases hr'
  exact ⟨halike, halike⟩

theorem of_modify {f f' : World → World} (h : ∀ w w', alike w w' → alike (f w) (f' w')) :
    Paired alike (fun _ _ => True) (modify f : Run PUnit) (modify f') := by
  intro w w' _ _ u u' halike hr hr'
  cases hr
  cases hr'
  exact ⟨trivial, h w w' halike⟩

theorem of_set {v v' : World} (h : alike v v') :
    Paired alike (fun _ _ => True) (set v : Run PUnit) (set v') := by
  intro w w' _ _ u u' _ hr hr'
  cases hr
  cases hr'
  exact ⟨trivial, h⟩

theorem bind {related' : γ → δ → Prop} {next : α → Run γ} {next' : β → Run δ}
    (hr : Paired alike related r r')
    (hnext : ∀ a b, related a b → Paired alike related' (next a) (next' b)) :
    Paired alike related' (r >>= next) (r' >>= next') := by
  intro w w' c d v v' halike hexec hexec'
  obtain ⟨a, u, hfirst, hrest⟩ := exists_of_exec_bind_ok hexec
  obtain ⟨b, u', hfirst', hrest'⟩ := exists_of_exec_bind_ok hexec'
  obtain ⟨hab, hu⟩ := hr w w' a b u u' halike hfirst hfirst'
  exact hnext a b hab u u' c d v v' hu hrest hrest'

theorem inStage (stage : String) (hr : Paired alike related r r') :
    Paired alike related (Run.inStage stage r) (Run.inStage stage r') := by
  have hok {γ : Type} {r : Run γ} {w u : World} {c : γ}
      (h : exec (Run.inStage stage r) w = (.ok c, u)) : exec r w = (.ok c, u) := by
    rw [exec_inStage] at h
    obtain ⟨hresult, hworld⟩ := Prod.mk.inj h
    cases hexec : exec r w with
    | mk outcome v =>
      rw [hexec] at hresult hworld
      cases outcome with
      | error f => cases hresult
      | ok a =>
        cases hresult
        cases hworld
        rfl
  intro w w' a b u u' halike hexec hexec'
  exact hr w w' a b u u' halike (hok hexec) (hok hexec')

end Paired
end DeployOptions.Run
