import DeployOptions.Proofs.Secret.Calls

/-! What operations on secrets can give as the cause of an options error, whatever faults their
calls meet. -/
namespace DeployOptions

def Cause.isOfSecrets : Cause → Bool
  | .fieldMissing .. | .fieldUndecodable .. | .readRefused .. | .writeRefused .. | .unreachable _ =>
    true
  | _ => false

namespace Run

variable {α β : Type} {allowed : Cause → Prop}

/-- Every options error of an operation has an allowed cause. -/
def Blames (allowed : Cause → Prop) (r : Run α) : Prop :=
  ∀ w e w', exec r w = (.error (.options e), w') → allowed e.cause

namespace Blames

theorem of_pure (a : α) : (pure a : Run α).Blames allowed := by
  intro w e w' h
  cases h

theorem of_fail {cause : Cause} (h : allowed cause) : (fail cause : Run α).Blames allowed := by
  intro w e w' herror
  cases herror
  exact h

theorem of_ofExcept {r : Except Failure α}
    (h : ∀ e, r = .error (.options e) → allowed e.cause) : (ofExcept r).Blames allowed := by
  intro w e w' herror
  rw [exec_ofExcept] at herror
  exact h e (Prod.mk.inj herror).1

theorem bind {r : Run α} {next : α → Run β} (hr : r.Blames allowed)
    (hnext : ∀ a, (next a).Blames allowed) : (r >>= next).Blames allowed := by
  intro w e w' h
  rcases exists_of_exec_bind_error h with hfail | ⟨a, w'', -, hfail⟩
  · exact hr w e w' hfail
  · exact hnext a w'' e w' hfail

theorem of_say {n : Notice} (h : ∀ f, n.lines = .error f → ∃ fault, f = .markup fault) :
    (say n).Blames allowed := by
  intro w e w' herror
  rw [exec_say] at herror
  cases hlines : n.lines with
  | ok rows =>
    rw [hlines] at herror
    cases herror
  | error f =>
    obtain ⟨fault, rfl⟩ := h f hlines
    rw [hlines] at herror
    cases herror

theorem mono {allowed' : Cause → Prop} {r : Run α} (hr : r.Blames allowed)
    (h : ∀ c, allowed c → allowed' c) : r.Blames allowed' :=
  fun w e w' herror => h e.cause (hr w e w' herror)

end Blames
end Run

namespace Secret
open Run

variable {k : Value} {secret field : String}

private theorem beginCall_blames (verb : Verb) (call : Call) :
    (beginCall verb call).Blames (·.isOfSecrets = true) := by
  intro w e w' h
  obtain ⟨fault, faults, hbegin⟩ := exists_beginCall verb call w
  rw [hbegin] at h
  cases h

private theorem read?_blames (k : Value) (secret : String) :
    (read? k secret).Blames (·.isOfSecrets = true) := by
  have hsay : (say (.reading k.plain secret)).Blames (·.isOfSecrets = true) := by
    refine .of_say fun f h => ?_
    rcases Notice.lines_reading k.plain secret with hlines | ⟨fault, hlines⟩
    · cases hlines.symm.trans h
    · cases hlines.symm.trans h
      exact ⟨fault, rfl⟩
  unfold read?
  cases k.isWritable with
  | false =>
    intro w e w' h
    cases h
  | true =>
    refine .bind hsay fun _ => .bind (beginCall_blames _ _) fun fault => ?_
    split
    · cases k.isHashable with
      | false =>
        intro w e w' h
        cases h
      | true =>
        intro w e w' h
        cases h
    · exact .of_pure _
    · exact .of_fail rfl
    · exact .of_fail rfl

private theorem lookup_blames (k : Value) (secret field : String) :
    (lookup k secret field).Blames (·.isOfSecrets = true) := by
  unfold lookup
  refine .bind (read?_blames k secret) fun found => ?_
  split
  · exact .of_pure _
  · next text _ =>
    refine .bind (.of_ofExcept fun e h => ?_) fun _ => .of_pure _
    rcases decode_error h with h' | ⟨fault, h'⟩
    · cases h'
    · cases h'
      rfl

private theorem write_blames (present : Bool) (k : Value) (secret field value : String) :
    (write present k secret field value).Blames (·.isOfSecrets = true) := by
  unfold write
  cases present <;>
  · refine .bind (beginCall_blames _ _) fun fault => ?_
    split
    · exact fun w e w' h => by cases h
    · exact .of_fail rfl
    · exact .of_fail rfl

private theorem persist_blames (k : Value) (secret field value : String) :
    (persist k secret field value).Blames (·.isOfSecrets = true) := by
  unfold persist
  refine .bind (read?_blames k secret) fun found => .bind (write_blames _ _ _ _ _) fun _ =>
    .of_say fun f h => ?_
  simp only [Notice.lines] at h
  split at h
  · cases h
  · exact ⟨_, (Except.error.inj h).symm⟩

end Secret

namespace Policy
open Run

variable {m : Manager} {k : Value} {p : Policy} {table : List Policy}

private theorem resolveRow_blames
    (hdefault : ∀ resolved, (p.default resolved).Blames (·.isOfSecrets = true))
    (resolved : Resolved) : (resolveRow m k resolved p).Blames (·.isOfSecrets = true) := by
  unfold resolveRow
  refine .bind (Secret.lookup_blames _ _ _) fun existing => ?_
  cases existing with
  | some value => exact .of_pure _
  | none =>
    cases p.isRequired m with
    | true => exact .of_fail rfl
    | false =>
      exact .bind (hdefault resolved) fun value => .bind (Secret.persist_blames _ _ _ _) fun _ =>
        .of_pure _

/-- Where no default blames anything else, a table blames the secrets or the calls for them. -/
theorem resolveTable_blames
    (hdefault : ∀ p ∈ table, ∀ resolved, (p.default resolved).Blames (·.isOfSecrets = true))
    (resolved : Resolved) : (resolveTable m k resolved table).Blames (·.isOfSecrets = true) := by
  induction table generalizing resolved with
  | nil => exact .of_pure _
  | cons p table ih =>
    simp only [List.forall_mem_cons] at hdefault
    exact .bind (resolveRow_blames hdefault.1 resolved) fun resolved' => ih hdefault.2 resolved'

end Policy
end DeployOptions
