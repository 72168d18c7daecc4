import DeployOptions.Proofs.Secret.Log
import DeployOptions.Proofs.Secret.Table

/-! What a run over the rows of a table leaves behind: in the log of calls, in the store, and among
the resolved values. -/
namespace DeployOptions.Policy
open Run

variable {m : Manager} {ns secret : String} {resolved r : Resolved} {w w' : World} {p : Policy}
  {table : List Policy} {outcome : Except Failure Resolved}

/-- A table of one secret, with a field and an option of its own for each row. -/
structure OneSecret (secret : String) (table : List Policy) : Prop where
  secret_eq : ∀ p ∈ table, p.secret = secret
  fields : (table.map Policy.field).Nodup
  options : (table.map Policy.option).Nodup

namespace OneSecret

theorem tail (h : OneSecret secret (p :: table)) : OneSecret secret table where
  secret_eq := fun q hq => h.secret_eq q (List.mem_cons_of_mem p hq)
  fields := (List.nodup_cons.mp h.fields).2
  options := (List.nodup_cons.mp h.options).2

theorem left {more : List Policy} (h : OneSecret secret (table ++ more)) :
    OneSecret secret table where
  secret_eq := fun q hq => h.secret_eq q (List.mem_append_left more hq)
  fields := (List.nodup_append.mp (List.map_append ▸ h.fields)).1
  options := (List.nodup_append.mp (List.map_append ▸ h.options)).1

theorem field_ne (h : OneSecret secret (p :: table)) {q : Policy} (hq : q ∈ table) :
    p.field ≠ q.field := by
  intro he
  exact (List.nodup_cons.mp h.fields).1 (he ▸ List.mem_map_of_mem hq)

theorem option_ne (h : OneSecret secret (p :: table)) {q : Policy} (hq : q ∈ table) :
    p.option ≠ q.option := by
  intro he
  exact (List.nodup_cons.mp h.options).1 (he ▸ List.mem_map_of_mem hq)

theorem mem_fields (h : OneSecret secret table) :
    ∀ p ∈ table, p.secret = secret ∧ p.field ∈ table.map Policy.field :=
  fun p hp => ⟨h.secret_eq p hp, List.mem_map_of_mem hp⟩

/-- With the option of the first row resolved, those of the rows behind it are still open. -/
theorem fresh_put (h : OneSecret secret (p :: table))
    (hfresh : ∀ q ∈ p :: table, Assoc.get? q.option resolved = none) (value : String) :
    ∀ q ∈ table, Assoc.get? q.option (Assoc.put p.option value resolved) = none := by
  intro q hq
  rw [Assoc.get?_put, if_neg (h.option_ne hq)]
  exact hfresh q (List.mem_cons_of_mem p hq)

/-- Saving the field of a row leaves the fields of the rows behind it as they are. -/
theorem field?_save (h : OneSecret secret (p :: table)) {q : Policy} (hq : q ∈ table)
    (value : String) (s : Store) :
    (s.save (.str ns) p.secret p.field value).field? (.str ns) q.secret q.field =
      s.field? (.str ns) q.secret q.field := by
  rw [h.secret_eq p List.mem_cons_self, h.tail.secret_eq q hq, Store.field?_save,
    if_neg (h.field_ne hq)]

theorem value?_save (h : OneSecret secret (p :: table)) {q : Policy} (hq : q ∈ table)
    (value : String) (s : Store) :
    (s.save (.str ns) p.secret p.field value).value? (.str ns) q.secret q.field =
      s.value? (.str ns) q.secret q.field := by
  rw [Store.value?, Store.value?, h.field?_save hq]

end OneSecret

namespace TableRun

/-- A run calls nothing but what is careful with the fields of the table. -/
theorem exists_log (h : TableRun m ns resolved w table outcome w') {fields : List String}
    (htable : ∀ p ∈ table, p.secret = secret ∧ p.field ∈ fields) :
    w'.faults = w.faults ∧ ∃ calls, w'.calls = w.calls ++ calls ∧
      CarefulLog ns secret fields w.store calls w'.store := by
  have hread {s : Store} (p : Policy) (hp : p.secret = secret) :
      CarefulLog ns secret fields s [.read (.str ns) p.secret] s := by
    rw [hp]
    exact .cons .read .nil
  induction h with
  | done => exact ⟨rfl, [], by simp, .nil⟩
  | @kept resolved w w' p r outcome value hvalue rest ih =>
    obtain ⟨hfaults, calls, hcalls, hlog⟩ := ih fun q hq => htable q (List.mem_cons_of_mem p hq)
    obtain ⟨hp, -⟩ := htable p List.mem_cons_self
    refine ⟨hfaults, .read (.str ns) p.secret :: calls, ?_, (hread p hp).append hlog⟩
    rw [hcalls]
    simp [World.afterRead]
  | @made resolved w w' p r outcome value picks hvalue hrequired hdefault rest ih =>
    obtain ⟨hfaults, calls, hcalls, hlog⟩ := ih fun q hq => htable q (List.mem_cons_of_mem p hq)
    obtain ⟨hp, hfield⟩ := htable p List.mem_cons_self
    have habsent := Store.value?_eq_none_iff.mp hvalue
    have hsave : CarefulLog ns secret fields w.store
        [.save (.str ns) p.secret p.field value w.store]
        (w.store.save (.str ns) p.secret p.field value) := by
      rw [hp] at habsent ⊢
      rw [← Call.apply_save]
      exact .cons (.save value hfield habsent) .nil
    refine ⟨hfaults, .read (.str ns) p.secret :: .read (.str ns) p.secret ::
      .save (.str ns) p.secret p.field value w.store :: calls, ?_,
      (hread p hp).append ((hread p hp).append (hsave.append hlog))⟩
    rw [hcalls]
    simp [World.afterRead, World.afterSave]
  | @undecodable resolved w p r f hvalue =>
    obtain ⟨hp, -⟩ := htable p List.mem_cons_self
    exact ⟨rfl, _, rfl, hread p hp⟩
  | @missing resolved w p r hvalue hrequired =>
    obtain ⟨hp, -⟩ := htable p List.mem_cons_self
    exact ⟨rfl, _, rfl, hread p hp⟩

/-- The first call is to read the secret of the first row. -/
theorem exists_first_read (h : TableRun m ns resolved w (p :: table) outcome w')
    {fields : List String} (htable : ∀ q ∈ p :: table, q.secret = secret ∧ q.field ∈ fields) :
    ∃ calls, w'.calls = w.calls ++ .read (.str ns) p.secret :: calls := by
  have hrest : ∀ q ∈ table, q.secret = secret ∧ q.field ∈ fields :=
    fun q hq => htable q (List.mem_cons_of_mem p hq)
  cases h with
  | kept hvalue rest =>
    obtain ⟨-, calls, hcalls, -⟩ := rest.exists_log hrest
    exact ⟨calls, by rw [hcalls]; simp [World.afterRead]⟩
  | @made _ _ _ _ _ _ value _ hvalue hrequired hdefault rest =>
    obtain ⟨-, calls, hcalls, -⟩ := rest.exists_log hrest
    refine ⟨.read (.str ns) p.secret :: .save (.str ns) p.secret p.field value w.store :: calls, ?_⟩
    rw [hcalls]
    simp [World.afterRead, World.afterSave]
  | undecodable hvalue => exact ⟨[], rfl⟩
  | missing hvalue hrequired => exact ⟨[], rfl⟩

/-- A run that fails has resolved the rows before the one that it fails at, and has only read that
one. -/
theorem exists_of_error {f : Failure} (h : TableRun m ns resolved w table (.error f) w') :
    ∃ before p after resolved' w'', table = before ++ p :: after ∧
      TableRun m ns resolved w before (.ok resolved') w'' ∧ w' = w''.afterRead ns p.secret ∧
      (w''.store.value? (.str ns) p.secret p.field = .error f ∨
        w''.store.value? (.str ns) p.secret p.field = .ok none ∧ p.isRequired m = true ∧
          f = .options ⟨.fieldMissing p.secret p.field, []⟩) := by
  generalize hf : (Except.error f : Except Failure Resolved) = outcome at h
  induction h with
  | done => cases hf
  | @kept resolved w w' p r outcome value hvalue rest ih =>
    obtain ⟨before, q, after, resolved', w'', htable, hrun, hw, hfail⟩ := ih hf
    exact ⟨p :: before, q, after, resolved', w'', by rw [htable]; rfl, .kept hvalue hrun, hw, hfail⟩
  | @made resolved w w' p r outcome value picks hvalue hrequired hdefault rest ih =>
    obtain ⟨before, q, after, resolved', w'', htable, hrun, hw, hfail⟩ := ih hf
    exact ⟨p :: before, q, after, resolved', w'', by rw [htable]; rfl,
      .made hvalue hrequired hdefault hrun, hw, hfail⟩
  | @undecodable resolved w p r g hvalue =>
    cases hf
    exact ⟨[], p, r, resolved, w, rfl, .done, rfl, .inl hvalue⟩
  | @missing resolved w p r hvalue hrequired =>
    cases hf
    exact ⟨[], p, r, resolved, w, rfl, .done, rfl, .inr ⟨hvalue, hrequired, rfl⟩⟩

/-- An option that no row gives stays as it is. -/
theorem get?_of_not_mem (h : TableRun m ns resolved w table (.ok r) w') {o : String}
    (ho : ∀ p ∈ table, p.option ≠ o) : Assoc.get? o r = Assoc.get? o resolved := by
  generalize hr : (Except.ok r : Except Failure Resolved) = outcome at h
  induction h with
  | done =>
    cases hr
    rfl
  | @kept resolved w w' p rest outcome value hvalue _ ih =>
    rw [ih (fun q hq => ho q (List.mem_cons_of_mem p hq)) hr, Assoc.get?_put,
      if_neg (ho p List.mem_cons_self)]
  | @made resolved w w' p rest outcome value picks hvalue hrequired hdefault _ ih =>
    rw [ih (fun q hq => ho q (List.mem_cons_of_mem p hq)) hr, Assoc.get?_put,
      if_neg (ho p List.mem_cons_self)]
  | undecodable => cases hr
  | missing => cases hr

/-- What the first row gives stays to the end. -/
theorem get?_first {value : String}
    (h : TableRun m ns (Assoc.put p.option value resolved) w table (.ok r) w')
    (hone : OneSecret secret (p :: table)) : Assoc.get? p.option r = some value := by
  rw [h.get?_of_not_mem fun q hq => (hone.option_ne hq).symm, Assoc.get?_put, if_pos rfl]

end TableRun

/-- The value of a row that was resolved: its option has it, its field holds it, and it was there
before or is what the default makes of values that were resolved with it. -/
structure Settled (m : Manager) (ns : String) (before after : Store) (r : Resolved) (p : Policy)
    (value : String) : Prop where
  resolved : Assoc.get? p.option r = some value
  stored : after.value? (.str ns) p.secret p.field = .ok (some value)
  origin : before.value? (.str ns) p.secret p.field = .ok (some value) ∨
    before.field? (.str ns) p.secret p.field = none ∧ p.isRequired m = false ∧
      after.field? (.str ns) p.secret p.field = some (Secret.encode value) ∧
      ∃ earlier w picks, exec (p.default earlier) w = (.ok value, { w with picks }) ∧
        ∀ o x, Assoc.get? o earlier = some x → Assoc.get? o r = some x

/-- Every row of a resolved table is settled. -/
theorem TableRun.settled (h : TableRun m ns resolved w table (.ok r) w')
    (hone : OneSecret secret table) (hfresh : ∀ p ∈ table, Assoc.get? p.option resolved = none) :
    ∀ p ∈ table, ∃ value, p.Settled m ns w.store w'.store r value := by
  generalize hr : (Except.ok r : Except Failure Resolved) = outcome at h
  induction h with
  | done => simp
  | @kept resolved w w' p table outcome value hvalue rest ih =>
    subst hr
    obtain rfl := hone.secret_eq p List.mem_cons_self
    obtain ⟨-, calls, -, hlog⟩ := rest.exists_log hone.tail.mem_fields
    intro q hq
    rcases List.mem_cons.mp hq with rfl | hq
    · exact ⟨value, rest.get?_first hone, hlog.value?_eq hvalue, .inl hvalue⟩
    · exact ih hone.tail (hone.fresh_put hfresh value) rfl q hq
  | @made resolved w w' p table outcome value picks hvalue hrequired hdefault rest ih =>
    subst hr
    obtain rfl := hone.secret_eq p List.mem_cons_self
    obtain ⟨-, calls, -, hlog⟩ := rest.exists_log hone.tail.mem_fields
    intro q hq
    -- a later row finds its field as it was before this one was saved
    rcases List.mem_cons.mp hq with rfl | hq
    · have habsent := Store.value?_eq_none_iff.mp hvalue
      have hsaved := hlog.field?_eq (Store.field?_save_self q.secret q.field value w.store)
      refine ⟨value, rest.get?_first hone, ?_,
        .inr ⟨habsent, hrequired, hsaved, resolved, _, _, hdefault, ?_⟩⟩
      · rw [Store.value?, hsaved]
        simp only [Secret.decode_encode, Except.map]
      · intro o x ho
        have hne : ∀ p ∈ q :: table, p.option ≠ o := by
          rintro p hp rfl
          rw [hfresh p hp] at ho
          cases ho
        rw [rest.get?_of_not_mem fun p hp => hne p (List.mem_cons_of_mem q hp), Assoc.get?_put,
          if_neg (hne q List.mem_cons_self)]
        exact ho
    · obtain ⟨found, hresolved, hstored, horigin⟩ :=
        ih hone.tail (hone.fresh_put hfresh value) rfl q hq
      refine ⟨found, hresolved, hstored, ?_⟩
      rcases horigin with hkept | ⟨habsent, hmade⟩
      · exact .inl ((hone.value?_save hq value w.store).symm.trans hkept)
      · exact .inr ⟨(hone.field?_save hq value w.store).symm.trans habsent, hmade⟩
  | undecodable => cases hr
  | missing => cases hr

/-- A row that can be resolved: its field holds a value, or may be made. -/
def Available (m : Manager) (ns : String) (s : Store) (p : Policy) : Prop :=
  (∃ value, s.value? (.str ns) p.secret p.field = .ok (some value)) ∨
    s.field? (.str ns) p.secret p.field = none ∧ p.isRequired m = false

/-- A table is resolved if each of its rows can be resolved by itself. -/
theorem TableRun.exists_ok (h : TableRun m ns resolved w table outcome w')
    (hone : OneSecret secret table) (havailable : ∀ p ∈ table, p.Available m ns w.store) :
    ∃ r, outcome = .ok r := by
  induction h with
  | @done resolved w => exact ⟨resolved, rfl⟩
  | @kept resolved w w' p table outcome value hvalue rest ih =>
    exact ih hone.tail fun q hq => havailable q (List.mem_cons_of_mem p hq)
  | @made resolved w w' p table outcome value picks hvalue hrequired hdefault rest ih =>
    refine ih hone.tail fun q hq => ?_
    rcases havailable q (List.mem_cons_of_mem p hq) with ⟨found, hfound⟩ | ⟨habsent, hmay⟩
    · exact .inl ⟨found, (hone.value?_save hq value w.store).trans hfound⟩
    · exact .inr ⟨(hone.field?_save hq value w.store).trans habsent, hmay⟩
  | @undecodable resolved w p table f hvalue =>
    rcases havailable p List.mem_cons_self with ⟨found, hfound⟩ | ⟨habsent, -⟩
    · rw [hvalue] at hfound
      cases hfound
    · rw [Store.value?_eq_none_iff.mpr habsent] at hvalue
      cases hvalue
  | @missing resolved w p table hvalue hrequired =>
    rcases havailable p List.mem_cons_self with ⟨found, hfound⟩ | ⟨-, hmay⟩
    · rw [hvalue] at hfound
      cases hfound
    · rw [hrequired] at hmay
      cases hmay

end DeployOptions.Policy
