import DeployOptions.Proofs.Run.Paired
import DeployOptions.Proofs.Secret.Access
import DeployOptions.Secret.Policy

/-! What can be seen of a secret is which of its fields are there. Operations on secrets in two
worlds that agree on that say the same, whatever the stored texts, as long as they succeed. -/
namespace DeployOptions

/-- Two stores that agree on whether a secret is there, and on which of some of its fields are. -/
structure Store.SamePresence (k : Value) (secret : String) (fields : List String)
    (s s' : Store) : Prop where
  isSome : (s'.secret? k secret).isSome = (s.secret? k secret).isSome
  field? : ∀ field ∈ fields, (s'.field? k secret field).isSome = (s.field? k secret field).isSome

/-- Two worlds that show the same on the console: all that has been said, what is to fail, the
local configuration, and which fields of a secret are there. -/
structure World.Alike (k : Value) (secret : String) (fields : List String) (w w' : World) :
    Prop where
  notices : w'.notices = w.notices
  faults : w'.faults = w.faults
  kube : w'.kube = w.kube
  store : w.store.SamePresence k secret fields w'.store

variable {k : Value} {secret field : String} {fields : List String}

namespace Store.SamePresence

variable {s s' : Store}

/-- A new secret is the same on both sides, whatever there was. -/
theorem createSecret (s s' : Store) (value value' : String) :
    SamePresence k secret fields (s.createSecret k secret field value)
      (s'.createSecret k secret field value') where
  isSome := by rw [secret?_createSecret_isSome, secret?_createSecret_isSome]
  field? f _ := by
    rw [field?_createSecret, field?_createSecret]
    split <;> rfl

theorem putField (h : SamePresence k secret fields s s') (value value' : String) :
    SamePresence k secret fields (s.putField k secret field value)
      (s'.putField k secret field value') where
  isSome := by rw [secret?_putField_isSome, secret?_putField_isSome]
  field? f hf := by
    rw [field?_putField, field?_putField]
    split
    · rfl
    · exact h.field? f hf

end Store.SamePresence

open Run World

theorem Run.say_paired (n : Notice) :
    Paired (Alike k secret fields) (fun _ _ => True) (say n) (say n) := by
  intro w w' _ _ u u' halike hr hr'
  rw [exec_say] at hr hr'
  obtain ⟨-, rfl⟩ := Prod.mk.inj hr
  obtain ⟨-, rfl⟩ := Prod.mk.inj hr'
  exact ⟨trivial, by rw [halike.notices], halike.faults, halike.kube, halike.store⟩

namespace Secret

/-- The same fault is met, whatever the call would have saved. -/
private theorem beginCall_paired (verb : Verb) (call call' : Call) :
    Paired (Alike k secret fields) Eq (beginCall verb call) (beginCall verb call') := by
  unfold beginCall
  refine .bind (.of_modify fun w w' h => ⟨h.notices, h.faults, h.kube, h.store⟩) fun _ _ _ =>
    .bind .of_get fun v v' hv => ?_
  rw [hv.faults]
  split
  · exact .of_pure rfl
  · exact .of_pure rfl
  · exact .bind (.of_set ⟨hv.notices, rfl, hv.kube, hv.store⟩) fun _ _ _ => .of_pure rfl

private def SameRead (fields : List String) (found found' : Option (Option SecretFields)) : Prop :=
  found'.isSome = found.isSome ∧ ∀ field ∈ fields,
    ((found'.bind id).bind (Assoc.get? field)).isSome =
      ((found.bind id).bind (Assoc.get? field)).isSome

private theorem read?_paired :
    Paired (Alike k secret fields) (SameRead fields) (read? k secret) (read? k secret) := by
  unfold read?
  extract_lets next
  have hnext : Paired (Alike k secret fields) (SameRead fields) (next ⟨⟩) (next ⟨⟩) := by
    refine .bind (say_paired _) fun _ _ _ => .bind (beginCall_paired _ _ _) ?_
    rintro fault _ rfl
    split
    · split
      · exact .bind .of_get fun v v' hv => .of_pure ⟨hv.store.isSome, hv.store.field?⟩
      · exact .of_throw _ _
    · exact .of_pure ⟨rfl, fun _ _ => rfl⟩
    · exact .of_throw _ _
    · exact .of_throw _ _
  split
  · exact .of_throw_bind _ _ _
  · exact hnext

private theorem lookup_paired (hfield : field ∈ fields) :
    Paired (Alike k secret fields) (fun found found' => found'.isSome = found.isSome)
      (lookup k secret field) (lookup k secret field) := by
  unfold lookup
  refine .bind read?_paired fun found found' hfound => ?_
  have hsame := hfound.2 field hfield
  generalize (found.bind id).bind (Assoc.get? field) = text at hsame ⊢
  generalize (found'.bind id).bind (Assoc.get? field) = text' at hsame ⊢
  cases text with
  | none =>
    obtain rfl : text' = none := by simpa using hsame
    exact .of_pure rfl
  | some text =>
    obtain ⟨text', rfl⟩ := Option.isSome_iff_exists.mp hsame
    have hdecode : Paired (Alike k secret fields) (fun _ _ => True)
        (Run.ofExcept (decode field secret k text)) (Run.ofExcept (decode field secret k text')) :=
      .of_ofExcept fun _ _ _ _ => trivial
    exact hdecode.bind fun _ _ _ => .of_pure rfl

private theorem write_paired (present : Bool) (value value' : String) :
    Paired (Alike k secret fields) (fun _ _ => True) (write present k secret field value)
      (write present k secret field value') := by
  unfold write
  cases present with
  | true =>
    refine .bind (beginCall_paired _ _ _) ?_
    rintro fault _ rfl
    split
    · exact .of_modify fun w w' h => ⟨h.notices, h.faults, h.kube, h.store.putField _ _⟩
    · exact .of_throw _ _
    · exact .of_throw _ _
  | false =>
    refine .bind (beginCall_paired _ _ _) ?_
    rintro fault _ rfl
    split
    · exact .of_modify fun w w' h => ⟨h.notices, h.faults, h.kube, .createSecret _ _ _ _⟩
    · exact .of_throw _ _
    · exact .of_throw _ _

/-- What is said about a stored value does not depend on the value. -/
private theorem persist_paired (value value' : String) :
    Paired (Alike k secret fields) (fun _ _ => True) (persist k secret field value)
      (persist k secret field value') := by
  unfold persist
  refine .bind read?_paired fun found found' hfound => ?_
  rw [hfound.1]
  exact .bind (write_paired _ _ _) fun _ _ _ => say_paired _

end Secret

namespace Policy

/-- A default that shows nothing of what is random in it or has been resolved before. -/
def Discreet (k : Value) (secret : String) (fields : List String) (p : Policy) : Prop :=
  ∀ resolved resolved', Paired (Alike k secret fields) (fun _ _ => True)
    (p.default resolved) (p.default resolved')

variable {m : Manager} {p : Policy} {table : List Policy}

private theorem resolveRow_paired (hfield : p.field ∈ fields)
    (hdefault : p.Discreet k p.secret fields) (resolved resolved' : Resolved) :
    Paired (Alike k p.secret fields) (fun _ _ => True) (resolveRow m k resolved p)
      (resolveRow m k resolved' p) := by
  unfold resolveRow
  refine .bind (Secret.lookup_paired hfield) fun existing existing' hsame => ?_
  cases existing with
  | some value =>
    obtain ⟨value', rfl⟩ := Option.isSome_iff_exists.mp hsame
    exact .of_pure trivial
  | none =>
    obtain rfl : existing' = none := by simpa using hsame
    cases hrequired : p.isRequired m with
    | true => exact .of_throw _ _
    | false =>
      exact .bind (hdefault resolved resolved') fun value value' _ =>
        .bind (Secret.persist_paired value value') fun _ _ _ => .of_pure trivial

/-- A table over one secret shows nothing but which of its fields were there. -/
theorem resolveTable_paired
    (htable : ∀ p ∈ table, p.secret = secret ∧ p.field ∈ fields ∧ p.Discreet k secret fields)
    (resolved resolved' : Resolved) :
    Paired (Alike k secret fields) (fun _ _ => True) (resolveTable m k resolved table)
      (resolveTable m k resolved' table) := by
  induction table generalizing resolved resolved' with
  | nil => exact .of_pure trivial
  | cons p table ih =>
    simp only [List.forall_mem_cons] at htable
    obtain ⟨⟨rfl, hfield, hdefault⟩, htable⟩ := htable
    exact .bind (resolveRow_paired hfield hdefault resolved resolved') fun r r' _ =>
      ih htable r r'

end Policy
end DeployOptions
