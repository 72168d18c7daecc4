import DeployOptions.Proofs.Secret.Access

/-! Logs of calls that take nothing away: they read, and save fields of one secret that are not
there yet. Such logs never change a stored text. -/
namespace DeployOptions

def Store.replay (calls : List Call) (s : Store) : Store := calls.foldl (fun s c => c.apply s) s

namespace Call

def writes (field : String) : Call → Bool
  | .read .. => false
  | .create _ _ f _ => f = field
  | .patch _ _ f _ => f = field

def creates : Call → Bool
  | .create .. => true
  | _ => false

/-- A call that reads the secret, or saves one of the given fields of it that is not there. -/
inductive Careful (ns secret : String) (fields : List String) (s : Store) : Call → Prop
  | read : Careful ns secret fields s (.read (.str ns) secret)
  | save {field : String} (value : String) (hfield : field ∈ fields)
      (habsent : s.field? (.str ns) secret field = none) :
      Careful ns secret fields s (.save (.str ns) secret field value s)

@[simp] theorem writes_save (namespaceName : Value) (secret field value f : String) (s : Store) :
    (save namespaceName secret field value s).writes f = decide (field = f) := by
  unfold save
  split <;> rfl

@[simp] theorem creates_save (namespaceName : Value) (secret field value : String) (s : Store) :
    (save namespaceName secret field value s).creates =
      (s.secret? namespaceName secret).isNone := by
  unfold save
  cases s.secret? namespaceName secret <;> rfl

end Call

inductive CarefulLog (ns secret : String) (fields : List String) :
    Store → List Call → Store → Prop
  | nil {s : Store} : CarefulLog ns secret fields s [] s
  | cons {s s' : Store} {c : Call} {r : List Call} (hc : c.Careful ns secret fields s)
      (rest : CarefulLog ns secret fields (c.apply s) r s') :
      CarefulLog ns secret fields s (c :: r) s'

namespace CarefulLog

variable {ns secret : String} {fields : List String} {s s' s'' : Store} {calls more : List Call}

theorem append (h : CarefulLog ns secret fields s calls s')
    (hmore : CarefulLog ns secret fields s' more s'') :
    CarefulLog ns secret fields s (calls ++ more) s'' := by
  induction h with
  | nil => exact hmore
  | cons hc _ ih => exact .cons hc (ih hmore)

/-- The log accounts for all that has become of the store. -/
theorem eq_replay (h : CarefulLog ns secret fields s calls s') : s' = s.replay calls := by
  induction h with
  | nil => rfl
  | cons _ _ ih => exact ih

/-- Each part of a careful log is careful. -/
theorem of_append (h : CarefulLog ns secret fields s (calls ++ more) s') :
    CarefulLog ns secret fields s calls (s.replay calls) ∧
      CarefulLog ns secret fields (s.replay calls) more s' := by
  induction calls generalizing s with
  | nil => exact ⟨.nil, h⟩
  | cons c calls ih =>
    cases h with
    | cons hc rest =>
      obtain ⟨hfirst, hsecond⟩ := ih rest
      exact ⟨.cons hc hfirst, hsecond⟩

/-- A stored text stays. -/
theorem field?_eq (h : CarefulLog ns secret fields s calls s') {field text : String}
    (hfield : s.field? (.str ns) secret field = some text) :
    s'.field? (.str ns) secret field = some text := by
  induction h with
  | nil => exact hfield
  | cons hc _ ih =>
    apply ih
    cases hc with
    | read => exact hfield
    | save value hmem habsent =>
      rw [Call.apply_save, Store.field?_save, if_neg]
      · exact hfield
      · rintro rfl
        rw [habsent] at hfield
        cases hfield

/-- A value that can be read stays. -/
theorem value?_eq (h : CarefulLog ns secret fields s calls s') {field value : String}
    (hvalue : s.value? (.str ns) secret field = .ok (some value)) :
    s'.value? (.str ns) secret field = .ok (some value) := by
  obtain ⟨text, hfield, -⟩ := Store.exists_field?_of_value? hvalue
  rw [Store.value?, hfield] at hvalue
  rw [Store.value?, h.field?_eq hfield]
  exact hvalue

/-- A field that is none of the given ones stays as it is. -/
theorem field?_of_not_mem (h : CarefulLog ns secret fields s calls s') {field : String}
    (hfield : field ∉ fields) :
    s'.field? (.str ns) secret field = s.field? (.str ns) secret field := by
  induction h with
  | nil => rfl
  | cons hc _ ih =>
    rw [ih]
    cases hc with
    | read => rfl
    | save value hmem habsent =>
      rw [Call.apply_save, Store.field?_save, if_neg]
      rintro rfl
      exact hfield hmem

/-- Every other secret, and every other namespace, stays as it is. -/
theorem secret?_of_ne (h : CarefulLog ns secret fields s calls s') {k : Value} {name : String}
    (hne : (k, name) ≠ (.str ns, secret)) : s'.secret? k name = s.secret? k name := by
  induction h with
  | nil => rfl
  | cons hc _ ih =>
    rw [ih]
    cases hc with
    | read => rfl
    | save value hmem habsent =>
      rw [Call.apply_save]
      by_cases hk : k = .str ns
      · subst hk
        exact Store.secret?_save _ _ _ _ fun he => hne (by rw [he])
      · exact Store.secret?_save_of_ne _ _ _ _ hk name

/-- A field that is there is not written. -/
theorem countP_writes_eq_zero (h : CarefulLog ns secret fields s calls s') {field text : String}
    (hfield : s.field? (.str ns) secret field = some text) :
    calls.countP (Call.writes field) = 0 := by
  induction h generalizing text with
  | nil => rfl
  | cons hc rest ih =>
    have hrest := ih ((CarefulLog.cons hc .nil).field?_eq hfield)
    rw [List.countP_cons, hrest]
    cases hc with
    | read => rfl
    | save value hmem habsent =>
      rw [Call.writes_save, if_neg]
      intro he
      rw [of_decide_eq_true he] at habsent
      rw [habsent] at hfield
      cases hfield

/-- What is written is in place. -/
theorem field?_isSome_of_writes (h : CarefulLog ns secret fields s calls s') {field : String}
    {c : Call} (hc : c ∈ calls) (hwrites : c.writes field = true) :
    (s'.field? (.str ns) secret field).isSome := by
  induction h with
  | nil => cases hc
  | cons hfirst rest ih =>
    rcases List.mem_cons.mp hc with rfl | hc
    · cases hfirst with
      | read => cases hwrites
      | save value hmem habsent =>
        rw [Call.writes_save, decide_eq_true_eq] at hwrites
        subst hwrites
        rw [Call.apply_save] at rest
        rw [rest.field?_eq (Store.field?_save_self _ _ _ _)]
        rfl
    · exact ih hc

/-- A field that is not written stays as it is. -/
theorem field?_of_not_writes (h : CarefulLog ns secret fields s calls s') {field : String}
    (hwrites : ∀ c ∈ calls, c.writes field = false) :
    s'.field? (.str ns) secret field = s.field? (.str ns) secret field := by
  induction h with
  | nil => rfl
  | cons hc _ ih =>
    simp only [List.forall_mem_cons] at hwrites
    rw [ih hwrites.2]
    cases hc with
    | read => rfl
    | save value hmem habsent =>
      rw [Call.writes_save, decide_eq_false_iff_not] at hwrites
      rw [Call.apply_save, Store.field?_save, if_neg hwrites.1]

/-- The fields that are written are those that are there afterwards and were not before. -/
theorem exists_writes_iff (h : CarefulLog ns secret fields s calls s') (field : String) :
    (∃ c ∈ calls, c.writes field = true) ↔
      s.field? (.str ns) secret field = none ∧ (s'.field? (.str ns) secret field).isSome := by
  constructor
  · rintro ⟨c, hc, hwrites⟩
    refine ⟨?_, h.field?_isSome_of_writes hc hwrites⟩
    cases hfield : s.field? (.str ns) secret field with
    | none => rfl
    | some text =>
      have := List.countP_eq_zero.mp (h.countP_writes_eq_zero hfield) c hc
      contradiction
  · rintro ⟨habsent, hpresent⟩
    by_cases hex : ∃ c ∈ calls, c.writes field = true
    · exact hex
    · have hwrites : ∀ c ∈ calls, c.writes field = false := by simpa using hex
      rw [h.field?_of_not_writes hwrites, habsent] at hpresent
      cases hpresent

/-- No field is written twice. -/
theorem countP_writes_le_one (h : CarefulLog ns secret fields s calls s') (field : String) :
    calls.countP (Call.writes field) ≤ 1 := by
  induction h with
  | nil => simp
  | cons hc rest ih =>
    rw [List.countP_cons]
    cases hc with
    | read => simpa [Call.writes] using ih
    | @save f value hmem habsent =>
      rw [Call.writes_save]
      by_cases he : f = field
      · subst he
        rw [Call.apply_save] at rest
        rw [rest.countP_writes_eq_zero (Store.field?_save_self _ _ _ _)]
        simp
      · simpa [he] using ih

/-- A secret that is there is not created. -/
theorem countP_creates_eq_zero (h : CarefulLog ns secret fields s calls s')
    (hsecret : (s.secret? (.str ns) secret).isSome) : calls.countP Call.creates = 0 := by
  induction h with
  | nil => rfl
  | cons hc rest ih =>
    rw [List.countP_cons]
    cases hc with
    | read => exact ih hsecret
    | save value hmem habsent =>
      rw [ih (by rw [Call.apply_save]; exact Store.secret?_save_isSome _ _ _ _), Call.creates_save]
      simp [Option.isSome_iff_ne_none.mp hsecret]

/-- A secret is created once at most. -/
theorem countP_creates_le_one (h : CarefulLog ns secret fields s calls s') :
    calls.countP Call.creates ≤ 1 := by
  induction h with
  | nil => simp
  | cons hc rest ih =>
    rw [List.countP_cons]
    cases hc with
    | read => simpa [Call.creates] using ih
    | save value hmem habsent =>
      rw [Call.apply_save] at rest
      rw [rest.countP_creates_eq_zero (Store.secret?_save_isSome _ _ _ _)]
      split <;> omega

/-- With every field in place, a careful log writes nothing. -/
theorem eq_read (h : CarefulLog ns secret fields s calls s')
    (hall : ∀ field ∈ fields, (s.field? (.str ns) secret field).isSome) :
    s' = s ∧ ∀ c ∈ calls, c = .read (.str ns) secret := by
  induction h with
  | nil => exact ⟨rfl, by simp⟩
  | cons hc rest ih =>
    cases hc with
    | read =>
      obtain ⟨hstore, hreads⟩ := ih hall
      refine ⟨hstore, fun c hc => ?_⟩
      rcases List.mem_cons.mp hc with rfl | hc
      · rfl
      · exact hreads c hc
    | save value hmem habsent =>
      have := hall _ hmem
      rw [habsent] at this
      cases this

end CarefulLog
end DeployOptions
