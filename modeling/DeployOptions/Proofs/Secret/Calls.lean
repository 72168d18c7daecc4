import DeployOptions.Proofs.Secret.Log
import DeployOptions.Secret.Policy

/-! What operations on secrets call, and what they change, whatever faults their calls meet. -/
namespace DeployOptions

variable {α β : Type}

def Call.target : Call → Value × String
  | .read namespaceName secret => (namespaceName, secret)
  | .create namespaceName secret _ _ => (namespaceName, secret)
  | .patch namespaceName secret _ _ => (namespaceName, secret)

@[simp] theorem Call.target_save (namespaceName : Value) (secret field value : String)
    (s : Store) : (save namespaceName secret field value s).target = (namespaceName, secret) := by
  unfold save
  split <;> rfl

namespace Store

theorem replay_append (calls more : List Call) (s : Store) :
    s.replay (calls ++ more) = (s.replay calls).replay more := List.foldl_append

end Store

namespace Run

/-- An operation adds only calls of one kind to the log. The store changes by some of them, in
their order: those that met no fault. -/
def Calls (P : Call → Prop) (r : Run α) : Prop :=
  ∀ w, ∃ calls done, (exec r w).2.calls = w.calls ++ calls ∧ (∀ c ∈ calls, P c) ∧
    done.Sublist calls ∧ (exec r w).2.store = w.store.replay done

namespace Calls

variable {P : Call → Prop} {r : Run α}

/-- What touches neither the log nor the store calls nothing. -/
theorem of_eq (hcalls : ∀ w, (exec r w).2.calls = w.calls)
    (hstore : ∀ w, (exec r w).2.store = w.store) : r.Calls P :=
  fun w => ⟨[], [], by simp [hcalls], by simp, .slnil, hstore w⟩

theorem of_pure (a : α) : Calls P (pure a : Run α) := of_eq (fun _ => rfl) fun _ => rfl

theorem of_throw (f : Failure) : Calls P (throw f : Run α) := of_eq (fun _ => rfl) fun _ => rfl

theorem of_ofExcept (e : Except Failure α) : Calls P (ofExcept e) :=
  of_eq (fun w => by rw [exec_ofExcept]) fun w => by rw [exec_ofExcept]

theorem of_say (n : Notice) : Calls P (say n) :=
  of_eq (fun w => by rw [exec_say]) fun w => by rw [exec_say]

theorem mono {Q : Call → Prop} (hr : r.Calls P) (h : ∀ c, P c → Q c) : r.Calls Q := by
  intro w
  obtain ⟨calls, done, hcalls, hkind, hdone, hstore⟩ := hr w
  exact ⟨calls, done, hcalls, fun c hc => h c (hkind c hc), hdone, hstore⟩

theorem bind {next : α → Run β} (hr : r.Calls P) (hnext : ∀ a, (next a).Calls P) :
    Calls P (r >>= next) := by
  intro w
  obtain ⟨calls, done, hcalls, hkind, hdone, hstore⟩ := hr w
  cases hexec : exec r w with
  | mk outcome w' =>
    rw [hexec] at hcalls hstore
    cases outcome with
    | error f =>
      rw [exec_bind_error hexec]
      exact ⟨calls, done, hcalls, hkind, hdone, hstore⟩
    | ok a =>
      rw [exec_bind_ok hexec]
      obtain ⟨more, further, hmore, hkind', hfurther, hstore'⟩ := hnext a w'
      refine ⟨calls ++ more, done ++ further, ?_, ?_, hdone.append hfurther, ?_⟩
      · rw [hmore, hcalls, List.append_assoc]
      · exact fun c hc => (List.mem_append.mp hc).elim (hkind c) (hkind' c)
      · rw [hstore', hstore, Store.replay_append]

end Calls
end Run

namespace Secret
open Run

variable {P : Call → Prop} {namespaceName : Value} {secret field : String}

/-- A call is in the log before it can meet a fault. -/
theorem exists_beginCall (verb : Verb) (call : Call) (w : World) :
    ∃ fault faults, exec (beginCall verb call) w =
      (.ok fault, { w with calls := w.calls ++ [call], faults }) := by
  unfold beginCall
  rw [exec_bind_ok (exec_modify _ _), exec_bind_ok (exec_get _)]
  split
  · exact ⟨none, w.faults, rfl⟩
  · next fault _ => exact ⟨some fault, w.faults, rfl⟩
  · next fault times _ => exact ⟨some fault, _, rfl⟩

/-- A call with what follows it is that one call, if nothing else is done but the change that it
stands for where it meets no fault. -/
private theorem beginCall_bind_calls {verb : Verb} {call : Call} {next : Option CallFault → Run α}
    (h : P call) (hdone : ∀ w, (exec (next none) w).2 = { w with store := call.apply w.store })
    (hfault : ∀ fault w, (exec (next (some fault)) w).2 = w) :
    (beginCall verb call >>= next).Calls P := by
  intro w
  obtain ⟨fault, faults, hbegin⟩ := exists_beginCall verb call w
  rw [exec_bind_ok hbegin]
  have hkind : ∀ c ∈ [call], P c := by simpa using h
  cases fault with
  | none =>
    rw [hdone]
    exact ⟨[call], [call], rfl, hkind, List.Sublist.refl _, rfl⟩
  | some fault =>
    rw [hfault]
    exact ⟨[call], [], rfl, hkind, List.nil_sublist _, rfl⟩

private theorem beginCall_calls (verb : Verb) {call : Call} (h : P call) :
    (beginCall verb call).Calls P := by
  intro w
  obtain ⟨fault, faults, hbegin⟩ := exists_beginCall verb call w
  rw [hbegin]
  exact ⟨[call], [], rfl, by simpa using h, List.nil_sublist _, rfl⟩

theorem read?_calls (h : P (.read namespaceName secret)) :
    (read? namespaceName secret).Calls P := by
  unfold read?
  extract_lets next
  have hnext (u : PUnit) : (next u).Calls P := by
    refine .bind (.of_say _) fun _ => .bind (beginCall_calls _ h) fun fault => ?_
    split
    · split
      · exact .bind (.of_eq (fun _ => rfl) fun _ => rfl) fun _ => .of_pure _
      · exact .of_throw _
    · exact .of_pure _
    · exact .of_throw _
    · exact .of_throw _
  split
  · exact .bind (.of_throw _) hnext
  · exact hnext ⟨⟩

theorem lookup_calls (h : P (.read namespaceName secret)) (field : String) :
    (lookup namespaceName secret field).Calls P := by
  unfold lookup
  refine .bind (read?_calls h) fun found => ?_
  split
  · exact .of_pure _
  · exact .bind (.of_ofExcept _) fun _ => .of_pure _

/-- A write is one call, which changes the store if it meets no fault. -/
theorem write_calls (present : Bool) {value : String}
    (hcreate : P (.create namespaceName secret field value))
    (hpatch : P (.patch namespaceName secret field value)) :
    (write present namespaceName secret field value).Calls P := by
  cases present with
  | true => exact beginCall_bind_calls hpatch (fun _ => rfl) fun fault _ => by cases fault <;> rfl
  | false => exact beginCall_bind_calls hcreate (fun _ => rfl) fun fault _ => by cases fault <;> rfl

theorem persist_calls {value : String} (hread : P (.read namespaceName secret))
    (hcreate : P (.create namespaceName secret field value))
    (hpatch : P (.patch namespaceName secret field value)) :
    (persist namespaceName secret field value).Calls P := by
  unfold persist
  exact .bind (read?_calls hread) fun existing =>
    .bind (write_calls _ hcreate hpatch) fun _ => .of_say _

end Secret

namespace Policy
open Run

variable {P : Call → Prop} {m : Manager} {namespaceName : Value} {p : Policy} {table : List Policy}

/-- A row whose default calls nothing. -/
def Silent (p : Policy) : Prop := ∀ resolved, (p.default resolved).Calls fun _ => False

/-- A kind of calls that a row keeps to: it reads its secret, and may write its field if it is not
required. -/
structure Keeps (P : Call → Prop) (m : Manager) (namespaceName : Value) (p : Policy) : Prop where
  read : P (.read namespaceName p.secret)
  save : p.isRequired m = false → ∀ value,
    P (.create namespaceName p.secret p.field value) ∧
      P (.patch namespaceName p.secret p.field value)

theorem resolveRow_calls (hsilent : p.Silent) (h : p.Keeps P m namespaceName)
    (resolved : Resolved) :
    (resolveRow m namespaceName resolved p).Calls P := by
  unfold resolveRow
  refine .bind (Secret.lookup_calls h.read _) fun existing => ?_
  cases hrequired : p.isRequired m with
  | true =>
    cases existing with
    | none => exact .of_throw _
    | some value => exact .of_pure _
  | false =>
    cases existing with
    | some value => exact .of_pure _
    | none =>
      refine .bind ((hsilent _).mono nofun) fun value => .bind ?_ fun _ => .of_pure _
      obtain ⟨hcreate, hpatch⟩ := h.save hrequired value
      exact Secret.persist_calls h.read hcreate hpatch

/-- A table calls nothing but what its rows call. -/
theorem resolveTable_calls (hsilent : ∀ p ∈ table, p.Silent)
    (h : ∀ p ∈ table, p.Keeps P m namespaceName) (resolved : Resolved) :
    (resolveTable m namespaceName resolved table).Calls P := by
  induction table generalizing resolved with
  | nil => exact .of_pure _
  | cons p table ih =>
    simp only [List.forall_mem_cons] at hsilent h
    unfold resolveTable
    exact .bind (resolveRow_calls hsilent.1 h.1 _) (ih hsilent.2 h.2)

end Policy
end DeployOptions
