import DeployOptions.Proofs.Secret.Calls
import DeployOptions.Proofs.Secret.TableRun

/-! A table of one secret depends on nothing in the store but whether that secret is there and what
its own fields hold, and it fills in those of its fields that are missing. -/
namespace DeployOptions

/-- Two stores that look the same through some fields of a secret. -/
structure Store.SameFields (ns secret : String) (fields : List String) (s s' : Store) : Prop where
  isSome : (s'.secret? (.str ns) secret).isSome = (s.secret? (.str ns) secret).isSome
  field? : ∀ field ∈ fields, s'.field? (.str ns) secret field = s.field? (.str ns) secret field

/-- What may have become of a store: some fields of a secret that were missing have been added, and
all else is as it was. -/
structure Store.Filled (ns secret : String) (fields : List String) (s s' : Store) : Prop where
  elsewhere : ∀ k name, (k, name) ≠ (.str ns, secret) → s'.secret? k name = s.secret? k name
  kept : ∀ field, (s.field? (.str ns) secret field).isSome ∨ field ∉ fields →
    s'.field? (.str ns) secret field = s.field? (.str ns) secret field
  same : (∀ field ∈ fields, s'.field? (.str ns) secret field = s.field? (.str ns) secret field) →
    s' = s

variable {ns secret : String} {fields : List String} {s s' : Store}

namespace Store.SameFields

theorem value? (h : SameFields ns secret fields s s') {field : String} (hfield : field ∈ fields) :
    s'.value? (.str ns) secret field = s.value? (.str ns) secret field := by
  rw [Store.value?, Store.value?, h.field? field hfield]

/-- Both take the same call to save a field, and still look the same after it. -/
theorem call_save (h : SameFields ns secret fields s s') (field value : String) :
    Call.save (.str ns) secret field value s' = Call.save (.str ns) secret field value s := by
  rw [Call.save, Call.save, h.isSome]

theorem save (h : SameFields ns secret fields s s') (field value : String) :
    SameFields ns secret fields (s.save (.str ns) secret field value)
      (s'.save (.str ns) secret field value) where
  isSome := by rw [secret?_save_isSome, secret?_save_isSome]
  field? f hf := by rw [field?_save, field?_save, h.field? f hf]

end Store.SameFields

/-- Careful calls fill in what is missing. -/
theorem CarefulLog.filled {calls : List Call} (h : CarefulLog ns secret fields s calls s') :
    s.Filled ns secret fields s' where
  elsewhere k name hne := h.secret?_of_ne hne
  kept field hfield := by
    rcases hfield with hpresent | habsent
    · obtain ⟨text, htext⟩ := Option.isSome_iff_exists.mp hpresent
      rw [htext, h.field?_eq htext]
    · exact h.field?_of_not_mem habsent
  same hsame := by
    induction h with
    | nil => rfl
    | cons hc rest ih =>
      cases hc with
      | read => exact ih hsame
      | save value hfield habsent =>
        -- a saved field is there at the end, so it is not as it was
        have hstays := rest.field?_eq (Call.apply_save .. ▸ Store.field?_save_self _ _ _ _)
        rw [hsame _ hfield, habsent] at hstays
        cases hstays

theorem Call.Careful.target_eq {c : Call} (h : c.Careful ns secret fields s) :
    c.target = (.str ns, secret) := by
  cases h with
  | read => rfl
  | save value => exact Call.target_save _ _ _ _ _

theorem CarefulLog.target_eq {calls : List Call} (h : CarefulLog ns secret fields s calls s') :
    ∀ c ∈ calls, c.target = (.str ns, secret) := by
  induction h with
  | nil => simp
  | cons hc _ ih => exact List.forall_mem_cons.mpr ⟨hc.target_eq, ih⟩

namespace Policy
open Run

/-- A default that does not look at the store. -/
def Blind (p : Policy) : Prop :=
  ∀ resolved w s, exec (p.default resolved) { w with store := s } =
    ((exec (p.default resolved) w).1, { (exec (p.default resolved) w).2 with store := s })

variable {m : Manager} {resolved : Resolved} {w w' : World} {table : List Policy}
  {outcome : Except Failure Resolved}

/-- In another store that looks the same, a run is the same but for the store. -/
theorem TableRun.transfer (h : TableRun m ns resolved w table outcome w')
    (htable : ∀ p ∈ table, p.secret = secret ∧ p.field ∈ fields) (hblind : ∀ p ∈ table, p.Blind)
    (hsame : w.store.SameFields ns secret fields s) :
    ∃ s', TableRun m ns resolved { w with store := s } table outcome { w' with store := s' } := by
  induction h generalizing s with
  | done => exact ⟨s, .done⟩
  | @kept resolved w w' p r outcome value hvalue rest ih =>
    simp only [List.forall_mem_cons] at htable hblind
    obtain ⟨rfl, hfield⟩ := htable.1
    obtain ⟨s', hrest⟩ := ih htable.2 hblind.2 hsame
    exact ⟨s', .kept ((hsame.value? hfield).trans hvalue) hrest⟩
  | @made resolved w w' p r outcome value picks hvalue hrequired hdefault rest ih =>
    simp only [List.forall_mem_cons] at htable hblind
    obtain ⟨rfl, hfield⟩ := htable.1
    obtain ⟨s', hrest⟩ := ih htable.2 hblind.2 (hsame.save p.field value)
    have hdefault' : exec (p.default resolved)
        (World.afterRead ns p.secret { w with store := s }) =
          (.ok value, { World.afterRead ns p.secret { w with store := s } with picks }) := by
      refine (hblind.1 resolved (w.afterRead ns p.secret) s).trans ?_
      rw [hdefault]
      rfl
    refine ⟨s', .made ((hsame.value? hfield).trans hvalue) hrequired hdefault' ?_⟩
    simpa only [World.afterSave, World.afterRead, hsame.call_save] using hrest
  | @undecodable resolved w p r f hvalue =>
    simp only [List.forall_mem_cons] at htable
    obtain ⟨rfl, hfield⟩ := htable.1
    exact ⟨s, .undecodable ((hsame.value? hfield).trans hvalue)⟩
  | @missing resolved w p r hvalue hrequired =>
    simp only [List.forall_mem_cons] at htable
    obtain ⟨rfl, hfield⟩ := htable.1
    exact ⟨s, .missing ((hsame.value? hfield).trans hvalue) hrequired⟩

end Policy
end DeployOptions
