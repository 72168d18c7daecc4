import DeployOptions.Proofs.Secret.Access
import DeployOptions.Secret.Policy

/-! How a table of policies is resolved where no call meets a fault: row by row, each value kept or
made, up to the first row that has none. -/
namespace DeployOptions.Policy
open Run Secret

/-- The default of a policy can be made once the `known` options are resolved, and takes nothing
but picks from outside. -/
def Draws (known : List String) (p : Policy) : Prop :=
  ∀ (resolved : Resolved) (w : World), (∀ o ∈ known, (Assoc.get? o resolved).isSome) →
    ∃ value picks, exec (p.default resolved) w = (.ok value, { w with picks })

def TableDraws (known : List String) : List Policy → Prop
  | [] => True
  | p :: r => p.Draws known ∧ TableDraws (p.option :: known) r

/-- After a row, its own option is known too. -/
theorem isSome_put {known : List String} {resolved : Resolved}
    (hknown : ∀ o ∈ known, (Assoc.get? o resolved).isSome) (option value : String) :
    ∀ o ∈ option :: known, (Assoc.get? o (Assoc.put option value resolved)).isSome := by
  intro o ho
  rw [Assoc.get?_put]
  split
  · rfl
  · next hne =>
    rcases List.mem_cons.mp ho with rfl | ho
    · exact absurd rfl hne
    · exact hknown o ho

def Printable (ns : String) (p : Policy) : Prop :=
  (Notice.reading ns p.secret).lines = .ok [] ∧
    ∃ rows, (Notice.stored p.secret p.field).lines = .ok rows

inductive TableRun (m : Manager) (ns : String) :
    Resolved → World → List Policy → Except Failure Resolved → World → Prop
  | done {resolved : Resolved} {w : World} : TableRun m ns resolved w [] (.ok resolved) w
  | kept {resolved : Resolved} {w w' : World} {p : Policy} {r : List Policy}
      {outcome : Except Failure Resolved} {value : String}
      (hvalue : w.store.value? (.str ns) p.secret p.field = .ok (some value))
      (rest : TableRun m ns (Assoc.put p.option value resolved) (w.afterRead ns p.secret) r
        outcome w') :
      TableRun m ns resolved w (p :: r) outcome w'
  | made {resolved : Resolved} {w w' : World} {p : Policy} {r : List Policy}
      {outcome : Except Failure Resolved} {value : String} {picks : Picks}
      (hvalue : w.store.value? (.str ns) p.secret p.field = .ok none)
      (hrequired : p.isRequired m = false)
      (hdefault : exec (p.default resolved) (w.afterRead ns p.secret) =
        (.ok value, { w.afterRead ns p.secret with picks }))
      (rest : TableRun m ns (Assoc.put p.option value resolved)
        (World.afterSave ns p.secret p.field value { w.afterRead ns p.secret with picks }) r
        outcome w') :
      TableRun m ns resolved w (p :: r) outcome w'
  | undecodable {resolved : Resolved} {w : World} {p : Policy} {r : List Policy} {f : Failure}
      (hvalue : w.store.value? (.str ns) p.secret p.field = .error f) :
      TableRun m ns resolved w (p :: r) (.error f) (w.afterRead ns p.secret)
  | missing {resolved : Resolved} {w : World} {p : Policy} {r : List Policy}
      (hvalue : w.store.value? (.str ns) p.secret p.field = .ok none)
      (hrequired : p.isRequired m = true) :
      TableRun m ns resolved w (p :: r) (.error (.options ⟨.fieldMissing p.secret p.field, []⟩))
        (w.afterRead ns p.secret)

variable {m : Manager} {ns : String} {resolved : Resolved} {w w' : World} {p : Policy}
  {table : List Policy} {known : List String} {outcome : Except Failure Resolved}

section Row

variable (hw : w.faults = []) (hp : p.Printable ns)
include hw hp

private theorem exec_resolveRow_kept {value : String}
    (hvalue : w.store.value? (.str ns) p.secret p.field = .ok (some value)) :
    exec (resolveRow m (.str ns) resolved p) w =
      (.ok (Assoc.put p.option value resolved), w.afterRead ns p.secret) := by
  have hlookup := exec_lookup hw hp.1 p.field
  rw [hvalue] at hlookup
  exact exec_bind_ok hlookup _

private theorem exec_resolveRow_undecodable {f : Failure}
    (hvalue : w.store.value? (.str ns) p.secret p.field = .error f) :
    exec (resolveRow m (.str ns) resolved p) w = (.error f, w.afterRead ns p.secret) := by
  have hlookup := exec_lookup hw hp.1 p.field
  rw [hvalue] at hlookup
  exact exec_bind_error hlookup _

private theorem exec_resolveRow_missing
    (hvalue : w.store.value? (.str ns) p.secret p.field = .ok none)
    (hrequired : p.isRequired m = true) :
    exec (resolveRow m (.str ns) resolved p) w =
      (.error (.options ⟨.fieldMissing p.secret p.field, []⟩), w.afterRead ns p.secret) := by
  have hlookup := exec_lookup hw hp.1 p.field
  rw [hvalue] at hlookup
  refine (exec_bind_ok hlookup _).trans ?_
  rw [Secret.decide, hrequired]
  rfl

private theorem exec_resolveRow_made {value : String} {picks : Picks}
    (hvalue : w.store.value? (.str ns) p.secret p.field = .ok none)
    (hrequired : p.isRequired m = false)
    (hdefault : exec (p.default resolved) (w.afterRead ns p.secret) =
      (.ok value, { w.afterRead ns p.secret with picks })) :
    exec (resolveRow m (.str ns) resolved p) w =
      (.ok (Assoc.put p.option value resolved),
        World.afterSave ns p.secret p.field value { w.afterRead ns p.secret with picks }) := by
  have hlookup := exec_lookup hw hp.1 p.field
  rw [hvalue] at hlookup
  obtain ⟨rows, hstored⟩ := hp.2
  have hpersist := exec_persist (w := { w.afterRead ns p.secret with picks }) hw hp.1 hstored value
  refine (exec_bind_ok hlookup _).trans ?_
  rw [Secret.decide, hrequired]
  exact (exec_bind_ok hdefault _).trans (exec_bind_ok hpersist _)

end Row

/-- Resolving a table is a run over its rows. -/
theorem tableRun_resolveTable (hw : w.faults = []) (hprint : ∀ p ∈ table, p.Printable ns)
    (hdraws : TableDraws known table) (hknown : ∀ o ∈ known, (Assoc.get? o resolved).isSome) :
    TableRun m ns resolved w table (exec (resolveTable m (.str ns) resolved table) w).1
      (exec (resolveTable m (.str ns) resolved table) w).2 := by
  induction table generalizing resolved w known with
  | nil => exact .done
  | cons p table ih =>
    obtain ⟨hp, hdraws⟩ := hdraws
    have hfirst := hprint p List.mem_cons_self
    have hprint : ∀ q ∈ table, q.Printable ns := fun q hq => hprint q (List.mem_cons_of_mem p hq)
    have hnext := isSome_put hknown p.option
    unfold resolveTable
    cases hvalue : w.store.value? (.str ns) p.secret p.field with
    | error f =>
      rw [exec_bind_error (exec_resolveRow_undecodable hw hfirst hvalue)]
      exact .undecodable hvalue
    | ok found =>
      cases found with
      | some value =>
        rw [exec_bind_ok (exec_resolveRow_kept hw hfirst hvalue)]
        exact .kept hvalue (ih hw hprint hdraws (hnext value))
      | none =>
        cases hrequired : p.isRequired m with
        | true =>
          rw [exec_bind_error (exec_resolveRow_missing hw hfirst hvalue hrequired)]
          exact .missing hvalue hrequired
        | false =>
          obtain ⟨value, picks, hdefault⟩ := hp resolved (w.afterRead ns p.secret) hknown
          rw [exec_bind_ok (exec_resolveRow_made hw hfirst hvalue hrequired hdefault)]
          exact .made hvalue hrequired hdefault (ih hw hprint hdraws (hnext value))

/-- A run over the rows of a table is what resolving it does. -/
theorem TableRun.exec_eq (h : TableRun m ns resolved w table outcome w') (hw : w.faults = [])
    (hprint : ∀ p ∈ table, p.Printable ns) :
    exec (resolveTable m (.str ns) resolved table) w = (outcome, w') := by
  induction h with
  | done => rfl
  | kept hvalue rest ih =>
    simp only [List.forall_mem_cons] at hprint
    exact (exec_bind_ok (exec_resolveRow_kept hw hprint.1 hvalue) _).trans (ih hw hprint.2)
  | made hvalue hrequired hdefault rest ih =>
    simp only [List.forall_mem_cons] at hprint
    exact (exec_bind_ok (exec_resolveRow_made hw hprint.1 hvalue hrequired hdefault) _).trans
      (ih hw hprint.2)
  | undecodable hvalue =>
    simp only [List.forall_mem_cons] at hprint
    exact exec_bind_error (exec_resolveRow_undecodable hw hprint.1 hvalue) _
  | missing hvalue hrequired =>
    simp only [List.forall_mem_cons] at hprint
    exact exec_bind_error (exec_resolveRow_missing hw hprint.1 hvalue hrequired) _

end DeployOptions.Policy
