import DeployOptions.Proofs.Secret.Calls
import DeployOptions.Proofs.Secret.TableRun

/-! What a required row can give: the stored value or nothing. This needs no calls without faults,
and no default is made for it. -/
namespace DeployOptions

namespace Store

variable {ns secret field text : String} {s : Store} {calls : List Call}

theorem field?_putSecret (name f : String) (fields : Option SecretFields) :
    (s.putSecret (.str ns) secret fields).field? (.str ns) name f =
      if secret = name then fields.bind (Assoc.get? f) else s.field? (.str ns) name f := by
  rw [field?, secret?_putSecret]
  split <;> rfl

/-- A call that does not write a field can take it away, but cannot put a text into it. -/
theorem field?_of_apply {c : Call} (hns : c.target.1 = .str ns) (hwrites : c.writes field = false)
    (h : (c.apply s).field? (.str ns) secret field = some text) :
    s.field? (.str ns) secret field = some text := by
  cases c with
  | read => exact h
  | create namespaceName name f value =>
    obtain rfl : namespaceName = .str ns := hns
    have hne : f ≠ field := by simpa [Call.writes] using hwrites
    rw [Call.apply, createSecret, field?_putSecret] at h
    split at h
    · simp [Assoc.get?, hne] at h
    · exact h
  | patch namespaceName name f value =>
    obtain rfl : namespaceName = .str ns := hns
    have hne : f ≠ field := by simpa [Call.writes] using hwrites
    rw [Call.apply, putField, field?_putSecret] at h
    split at h
    · next he =>
      rw [Option.bind_some, Assoc.get?_put, if_neg hne, he] at h
      rw [field?]
      cases hfields : (s.secret? (.str ns) secret).bind id with
      | none => rw [hfields] at h; cases h
      | some fields => rw [hfields] at h; exact h
    · exact h

/-- A text that calls have not written was there before them. -/
theorem field?_of_replay (hns : ∀ c ∈ calls, c.target.1 = .str ns)
    (hwrites : ∀ c ∈ calls, c.writes field = false)
    (h : (s.replay calls).field? (.str ns) secret field = some text) :
    s.field? (.str ns) secret field = some text := by
  induction calls generalizing s with
  | nil => exact h
  | cons c calls ih =>
    simp only [List.forall_mem_cons] at hns hwrites
    exact field?_of_apply hns.1 hwrites.1 (ih hns.2 hwrites.2 h)

theorem value?_of_replay {value : String} (hns : ∀ c ∈ calls, c.target.1 = .str ns)
    (hwrites : ∀ c ∈ calls, c.writes field = false)
    (h : (s.replay calls).value? (.str ns) secret field = .ok (some value)) :
    s.value? (.str ns) secret field = .ok (some value) := by
  obtain ⟨text, htext, -⟩ := exists_field?_of_value? h
  rw [value?, htext] at h
  rw [value?, field?_of_replay hns hwrites htext]
  exact h

theorem replay_of_reads {namespaceName : Value}
    (h : ∀ c ∈ calls, c = .read namespaceName secret) : s.replay calls = s := by
  induction calls with
  | nil => rfl
  | cons c calls ih =>
    rw [replay, List.foldl_cons, h c List.mem_cons_self]
    exact ih fun d hd => h d (List.mem_cons_of_mem _ hd)

end Store

namespace Secret
open Run

variable {namespaceName : Value} {secret field : String} {w w' : World}

/-- What is read is stored, unless there is said to be nothing. -/
private theorem secret?_of_read? {found : Option (Option SecretFields)}
    (h : exec (read? namespaceName secret) w = (.ok found, w')) :
    found = none ∨ found = w.store.secret? namespaceName secret := by
  unfold read? at h
  extract_lets next at h
  have hnext : exec (next ⟨⟩) w = (.ok found, w') := by
    split at h
    · obtain ⟨_, _, hthrow, -⟩ := exists_of_exec_bind_ok h
      cases hthrow
    · exact h
  obtain ⟨⟨⟩, w₁, hsay, h⟩ := exists_of_exec_bind_ok hnext
  obtain ⟨fault, w₂, hbegin, h⟩ := exists_of_exec_bind_ok h
  have hstore : w₂.store = w.store := by
    obtain ⟨_, _, hcall⟩ := exists_beginCall .read (.read namespaceName secret) w₁
    rw [exec_say] at hsay
    rw [← (Prod.mk.inj (hcall.symm.trans hbegin)).2, ← (Prod.mk.inj hsay).2]
  split at h
  · split at h
    · cases h
      exact .inr (by rw [hstore])
    · cases h
  · cases h
    exact .inl rfl
  · cases h
  · cases h

/-- What a lookup finds is stored. -/
private theorem value?_of_lookup {value : String}
    (h : exec (lookup namespaceName secret field) w = (.ok (some value), w')) :
    w.store.value? namespaceName secret field = .ok (some value) := by
  obtain ⟨found, w'', hread, h⟩ := exists_of_exec_bind_ok h
  rcases secret?_of_read? hread with rfl | rfl
  · cases h
  · rw [Store.value?, Store.field?]
    cases hfield : ((w.store.secret? namespaceName secret).bind id).bind (Assoc.get? field) with
    | none =>
      rw [hfield] at h
      cases h
    | some text =>
      rw [hfield] at h
      obtain ⟨decoded, _, hdecode, h⟩ := exists_of_exec_bind_ok h
      rw [exec_ofExcept] at hdecode
      cases h
      simp only [(Prod.mk.inj hdecode).1, Except.map]

end Secret

namespace Policy
open Run

variable {m : Manager} {namespaceName : Value} {ns secret : String} {resolved r : Resolved}
  {w w' : World} {p : Policy} {table : List Policy}

/-- The rows of a table with other defaults for some fields. -/
def redefault (fields : List String) (default : String → Resolved → Run String) (p : Policy) :
    Policy :=
  if p.field ∈ fields then { p with default := default p.field } else p

/-- A row that is resolved gives its option a value; a required one gives what is stored. -/
private theorem value_of_resolveRow
    (h : exec (resolveRow m namespaceName resolved p) w = (.ok r, w')) :
    ∃ value, r = Assoc.put p.option value resolved ∧
      (p.isRequired m = true →
        w.store.value? namespaceName p.secret p.field = .ok (some value)) := by
  obtain ⟨existing, w₁, hlookup, h⟩ := exists_of_exec_bind_ok h
  cases existing with
  | some value =>
    cases h
    exact ⟨value, rfl, fun _ => Secret.value?_of_lookup hlookup⟩
  | none =>
    cases hrequired : p.isRequired m with
    | true =>
      rw [Secret.decide, hrequired] at h
      cases h
    | false =>
      rw [Secret.decide, hrequired] at h
      obtain ⟨value, w₂, -, h⟩ := exists_of_exec_bind_ok h
      obtain ⟨⟨⟩, w₃, -, h⟩ := exists_of_exec_bind_ok h
      cases h
      exact ⟨value, rfl, fun he => absurd he Bool.false_ne_true⟩

/-- A table whose first row is required and not there reads that row's secret, and fails. -/
theorem resolveTable_absent (hsilent : p.Silent) (hrequired : p.isRequired m = true)
    (habsent : w.store.value? namespaceName p.secret p.field = .ok none) :
    (∃ f, (exec (resolveTable m namespaceName resolved (p :: table)) w).1 = .error f) ∧
      (exec (resolveTable m namespaceName resolved (p :: table)) w).2.store = w.store ∧
      ∃ calls, (exec (resolveTable m namespaceName resolved (p :: table)) w).2.calls =
        w.calls ++ calls ∧ ∀ c ∈ calls, c = .read namespaceName p.secret := by
  obtain ⟨calls, done, hcalls, hkind, hdone, hstore⟩ :=
    resolveRow_calls (P := fun c => c = .read namespaceName p.secret) hsilent
      ⟨rfl, fun hmay => by rw [hrequired] at hmay; cases hmay⟩ resolved w
  cases hrow : exec (resolveRow m namespaceName resolved p) w with
  | mk outcome w₁ =>
    cases outcome with
    | ok r =>
      obtain ⟨value, -, hstored⟩ := value_of_resolveRow hrow
      rw [habsent] at hstored
      cases hstored hrequired
    | error f =>
      rw [hrow] at hcalls hstore
      rw [resolveTable, exec_bind_error hrow]
      refine ⟨⟨f, rfl⟩, ?_, calls, hcalls, hkind⟩
      rw [hstore, Store.replay_of_reads fun c hc => hkind c (hdone.subset hc)]

/-- An option that no row gives stays as it is. -/
private theorem get?_of_resolveTable
    (h : exec (resolveTable m namespaceName resolved table) w = (.ok r, w')) {o : String}
    (ho : ∀ p ∈ table, p.option ≠ o) : Assoc.get? o r = Assoc.get? o resolved := by
  induction table generalizing resolved w with
  | nil =>
    cases h
    rfl
  | cons p table ih =>
    obtain ⟨resolved', w₁, hrow, hrest⟩ := exists_of_exec_bind_ok h
    obtain ⟨value, rfl, -⟩ := value_of_resolveRow hrow
    rw [ih hrest fun q hq => ho q (List.mem_cons_of_mem p hq), Assoc.get?_put,
      if_neg (ho p List.mem_cons_self)]

/-- No default is made for a required row. -/
theorem resolveTable_redefault {fields : List String}
    (hrequired : ∀ p ∈ table, p.field ∈ fields → p.isRequired m = true)
    (default : String → Resolved → Run String) (resolved : Resolved) :
    resolveTable m namespaceName resolved (table.map (redefault fields default)) =
      resolveTable m namespaceName resolved table := by
  have hrow (p : Policy) (hp : p.field ∈ fields → p.isRequired m = true) (resolved : Resolved) :
      resolveRow m namespaceName resolved (redefault fields default p) =
        resolveRow m namespaceName resolved p := by
    unfold redefault
    split
    · next hfield =>
      unfold resolveRow
      congr 1
      funext existing
      rw [hp hfield]
      cases existing <;> rfl
    · rfl
  induction table generalizing resolved with
  | nil => rfl
  | cons p table ih =>
    simp only [List.forall_mem_cons] at hrequired
    rw [List.map_cons, resolveTable, resolveTable, hrow p hrequired.1]
    congr 1
    funext resolved
    exact ih hrequired.2 resolved

/-- A required row of a resolved table has the value that was stored before. -/
theorem required_stored (hone : OneSecret secret table) (hsilent : ∀ p ∈ table, p.Silent)
    (h : exec (resolveTable m (.str ns) resolved table) w = (.ok r, w')) :
    ∀ p ∈ table, p.isRequired m = true → ∃ value, Assoc.get? p.option r = some value ∧
      w.store.value? (.str ns) p.secret p.field = .ok (some value) := by
  induction table generalizing resolved w with
  | nil => simp
  | cons q table ih =>
    obtain ⟨resolved', w₁, hrow, hrest⟩ := exists_of_exec_bind_ok h
    obtain ⟨value, rfl, hstored⟩ := value_of_resolveRow hrow
    simp only [List.forall_mem_cons] at hsilent
    intro p hp hrequired
    rcases List.mem_cons.mp hp with rfl | hp
    · refine ⟨value, ?_, hstored hrequired⟩
      rw [get?_of_resolveTable hrest fun q hq => (hone.option_ne hq).symm, Assoc.get?_put,
        if_pos rfl]
    · -- the first row writes another field, so it cannot have put this value there
      obtain ⟨found, hfound, hlater⟩ := ih hone.tail hsilent.2 hrest p hp hrequired
      refine ⟨found, hfound, ?_⟩
      have hne : decide (q.field = p.field) = false := decide_eq_false (hone.field_ne hp)
      obtain ⟨calls, done, -, hkind, hdone, hstore⟩ :=
        resolveRow_calls (P := fun c => c.target.1 = .str ns ∧ c.writes p.field = false)
          (m := m) hsilent.1
          ⟨⟨rfl, rfl⟩, fun _ _ => ⟨⟨rfl, hne⟩, rfl, hne⟩⟩ resolved w
      rw [hrow] at hstore
      rw [hstore] at hlater
      exact Store.value?_of_replay (fun c hc => (hkind c (hdone.subset hc)).1)
        (fun c hc => (hkind c (hdone.subset hc)).2) hlater

end Policy
end DeployOptions
