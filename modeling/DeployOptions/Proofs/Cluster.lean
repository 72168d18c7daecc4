import DeployOptions.Cluster
import DeployOptions.Proofs.Console.Line
import DeployOptions.Proofs.Resolve.External
import DeployOptions.Proofs.Run.Frame

/-! What connecting to a cluster asks of the local configuration, and that resolving asks it for
nothing more. -/
namespace DeployOptions
open Run

section Secrets

variable {k : Value} {secret field : String}

private theorem beginCall_leaves (verb : Verb) (call : Call) :
    (Secret.beginCall verb call).Leaves World.kubeCalls := by
  intro w
  obtain ⟨fault, faults, hbegin⟩ := Secret.exists_beginCall verb call w
  rw [hbegin]

private theorem read?_leaves : (Secret.read? k secret).Leaves World.kubeCalls := by
  unfold Secret.read?
  extract_lets next
  have hnext (u : PUnit) : (next u).Leaves World.kubeCalls := by
    refine .bind (.of_say fun _ _ => rfl) fun _ => .bind (beginCall_leaves _ _) fun fault => ?_
    split
    · split
      · exact .bind .of_get fun _ => .of_pure _
      · exact .of_throw _
    · exact .of_pure _
    · exact .of_throw _
    · exact .of_throw _
  split
  · exact .bind (.of_throw _) hnext
  · exact hnext ⟨⟩

private theorem lookup_leaves : (Secret.lookup k secret field).Leaves World.kubeCalls := by
  unfold Secret.lookup
  refine .bind read?_leaves fun found => ?_
  split
  · exact .of_pure _
  · exact .bind (.of_ofExcept _) fun _ => .of_pure _

private theorem write_leaves (present : Bool) (value : String) :
    (Secret.write present k secret field value).Leaves World.kubeCalls := by
  unfold Secret.write
  split
  refine .bind (beginCall_leaves _ _) fun fault => ?_
  split
  · exact .of_modify fun _ => rfl
  · exact .of_throw _
  · exact .of_throw _

private theorem persist_leaves (value : String) :
    (Secret.persist k secret field value).Leaves World.kubeCalls := by
  unfold Secret.persist
  exact .bind read?_leaves fun _ => .bind (write_leaves _ _) fun _ => .of_say fun _ _ => rfl

private theorem resolveRow_leaves {m : Manager} {p : Policy} {resolved : Resolved}
    (hdefault : (p.default resolved).Leaves World.kubeCalls) :
    (Policy.resolveRow m k resolved p).Leaves World.kubeCalls := by
  unfold Policy.resolveRow
  refine .bind lookup_leaves fun existing => ?_
  split
  · exact .of_throw _
  · exact .of_pure _
  · exact .bind hdefault fun _ => .bind (persist_leaves _) fun _ => .of_pure _

private theorem resolveTable_leaves {m : Manager} {table : List Policy}
    (hdefault : ∀ p ∈ table, ∀ resolved, (p.default resolved).Leaves World.kubeCalls)
    (resolved : Resolved) :
    (Policy.resolveTable m k resolved table).Leaves World.kubeCalls := by
  induction table generalizing resolved with
  | nil => exact .of_pure _
  | cons p table ih =>
    simp only [List.forall_mem_cons] at hdefault
    unfold Policy.resolveTable
    exact .bind (resolveRow_leaves (hdefault.1 _)) (ih hdefault.2)

/-- Resolving asks nothing of the local configuration. -/
theorem zync_leaves (m : Manager) (k : Value) :
    (Resolve.zync m k).Leaves World.kubeCalls := by
  intro w
  rw [Resolve.exec_zync]
  refine resolveTable_leaves ?_ [] w
  simp only [Policy.zyncTable, List.forall_mem_cons]
  refine ⟨fun _ _ => rfl, fun _ _ => rfl, fun _ _ => rfl, fun resolved => ?_, by simp⟩
  refine .bind ?_ fun _ => .of_pure _
  unfold Policy.earlier
  split
  · exact .of_pure _
  · exact .of_throw _

end Secrets

namespace Cluster

def prompt (kube : Kubeconfig) (select : Bool) : List KubeCall :=
  if select then [.select "Select context to work with" kube.contexts] else []

def chosen (kube : Kubeconfig) (select : Bool) : Value :=
  if select then kube.answer else .str kube.current.plain

/-- What connecting asks of the local configuration: to list the contexts, to let one be picked if
there is to be a prompt, and to load this one. -/
def connecting (kube : Kubeconfig) (select : Bool) : List KubeCall :=
  (.listContexts :: prompt kube select) ++ [.load (chosen kube select)]

structure Chooses (kube : Kubeconfig) (select : Bool) : Prop where
  listed : kube.listError = none
  picked : select = true → kube.answer ≠ .null

structure Connects (kube : Kubeconfig) (select : Bool) : Prop extends Chooses kube select where
  loaded : kube.loadError = none

/-- With some configuration, an operation makes calls of it in the given order and none of the
secrets. If it fails, the last ones may be left out. -/
def Asks {α : Type} (kube : Kubeconfig) (calls : List KubeCall) (r : Run α) (post : α → Prop) :
    Prop :=
  ∀ w : World, w.kube = kube →
    (exec r w).2.kube = kube ∧ (exec r w).2.calls = w.calls ∧
    ∃ asked, asked <+: calls ∧ (exec r w).2.kubeCalls = w.kubeCalls ++ asked ∧
      ∀ a, (exec r w).1 = .ok a → asked = calls ∧ post a

namespace Asks

variable {α β : Type} {kube : Kubeconfig} {calls more : List KubeCall} {r : Run α}
  {post : α → Prop} {after : β → Prop}

theorem of_pure {a : α} (h : post a) : Asks kube [] (pure a) post := fun w hw =>
  ⟨hw, rfl, [], List.nil_prefix, by simp, fun b hb => by
    obtain rfl := Except.ok.inj hb
    exact ⟨rfl, h⟩⟩

theorem of_throw (f : Failure) : Asks kube calls (throw f : Run α) post := fun w hw =>
  ⟨hw, rfl, [], List.nil_prefix, (List.append_nil w.kubeCalls).symm, nofun⟩

theorem of_get : Asks kube [] get fun v => v.kube = kube := fun w hw =>
  ⟨hw, rfl, [], List.nil_prefix, by simp, fun v hv => by
    obtain rfl := Except.ok.inj hv
    exact ⟨rfl, hw⟩⟩

theorem of_note (c : KubeCall) : Asks kube [c] (noteKubeCall c) fun _ => True := fun _ hw =>
  ⟨hw, rfl, [c], List.prefix_refl _, rfl, fun _ _ => ⟨rfl, trivial⟩⟩

theorem of_say (n : Notice) : Asks kube [] (say n) fun _ => True := by
  intro w hw
  rw [exec_say]
  exact ⟨hw, rfl, [], List.nil_prefix, by simp, fun _ _ => ⟨rfl, trivial⟩⟩

theorem bind {next : α → Run β} (hr : Asks kube calls r post)
    (hnext : ∀ a, post a → Asks kube more (next a) after) :
    Asks kube (calls ++ more) (r >>= next) after := by
  intro w hw
  obtain ⟨hkube, hcalls, asked, hasked, hkubeCalls, hpost⟩ := hr w hw
  cases hexec : exec r w with
  | mk outcome w' =>
    rw [hexec] at hkube hcalls hkubeCalls hpost
    cases outcome with
    | error f =>
      rw [exec_bind_error hexec]
      exact ⟨hkube, hcalls, asked, hasked.trans (List.prefix_append _ _), hkubeCalls, nofun⟩
    | ok a =>
      rw [exec_bind_ok hexec]
      obtain ⟨rfl, ha⟩ := hpost a rfl
      obtain ⟨hkube', hcalls', asked', hasked', hkubeCalls', hafter⟩ := hnext a ha w' hkube
      refine ⟨hkube', hcalls'.trans hcalls, asked ++ asked',
        (List.prefix_append_right_inj asked).mpr hasked', ?_, fun b hb => ?_⟩
      · rw [hkubeCalls', hkubeCalls, List.append_assoc]
      · obtain ⟨rfl, hb⟩ := hafter b hb
        exact ⟨rfl, hb⟩

/-- What asks nothing can stand in front. -/
theorem bind_right {next : α → Run β} (hr : Asks kube [] r post)
    (hnext : ∀ a, post a → Asks kube more (next a) after) :
    Asks kube more (r >>= next) after := hr.bind hnext

/-- What asks nothing can stand behind. -/
theorem bind_left {next : α → Run β} (hr : Asks kube calls r post)
    (hnext : ∀ a, post a → Asks kube [] (next a) after) :
    Asks kube calls (r >>= next) after := List.append_nil calls ▸ hr.bind hnext

end Asks

variable {kube : Kubeconfig} {select : Bool}

/-- A context is come by with a configuration that can list them, and that answers if there is a
prompt. -/
theorem chooseContext_asks :
    Asks kube (.listContexts :: prompt kube select) (chooseContext select) fun context =>
      context = chosen kube select ∧ Chooses kube select := by
  unfold chooseContext
  refine .bind (.of_note _) fun _ _ => .bind_right .of_get fun v hv => ?_
  subst hv
  extract_lets kube finish rest
  have hfinish (hchooses : Chooses kube select) :
      Asks kube [] (finish (chosen kube select)) fun context =>
        context = chosen kube select ∧ Chooses kube select :=
    .bind_right (.of_say _) fun _ _ => .of_pure ⟨rfl, hchooses⟩
  have hrest (hlisted : kube.listError = none) (u : PUnit) :
      Asks kube (prompt kube select) (rest u) fun context =>
        context = chosen kube select ∧ Chooses kube select := by
    cases select with
    | false =>
      refine .bind_right (.of_pure rfl) fun context hcontext => ?_
      obtain rfl := hcontext
      exact hfinish ⟨hlisted, nofun⟩
    | true =>
      refine .bind_left (.of_note _) fun _ _ => ?_
      split
      · exact .bind_right (.of_say _) fun _ _ => .of_throw _
      · next answer hanswer =>
        refine .bind_right (.of_pure rfl) fun context hcontext => ?_
        obtain rfl := hcontext
        exact hfinish ⟨hlisted, fun _ => hanswer⟩
  cases hlisted : kube.listError with
  | some reason => exact .bind_left (.of_throw _) fun _ h => False.elim h
  | none => exact hrest hlisted ⟨⟩

/-- Connecting asks for one thing after the other, and has a result only with a configuration that
has answered all of them. -/
theorem connect_asks : Asks kube (connecting kube select) (connect select) fun context =>
    context = chosen kube select ∧ Connects kube select := by
  unfold connect
  refine .bind chooseContext_asks fun context hcontext => ?_
  obtain ⟨rfl, hchooses⟩ := hcontext
  refine .bind_left (.of_note _) fun _ _ => .bind_right .of_get fun v hv => ?_
  subst hv
  split
  · exact .of_throw _
  · next hloaded => exact .of_pure ⟨rfl, hchooses, hloaded⟩

/-- The current context is connected to, and this is said. -/
theorem exec_connect {w : World} (hlist : w.kube.listError = none)
    (hload : w.kube.loadError = none)
    (hcurrent : Console.isPlain w.kube.current.plain.toList = true) :
    exec (connect false) w = (.ok (.str w.kube.current.plain),
      { w with
        kubeCalls := w.kubeCalls ++ [.listContexts] ++ [.load (.str w.kube.current.plain)]
        notices := w.notices ++
          [.action ("Working with " ++ Console.highlight w.kube.current.plain ++ " cluster")] }) := by
  have hnote (c : KubeCall) (w : World) :
      exec (noteKubeCall c) w = (.ok (), { w with kubeCalls := w.kubeCalls ++ [c] }) := rfl
  have hline : ∃ rows, (Notice.action ("Working with " ++ Console.highlight w.kube.current.plain ++
      " cluster")).lines = .ok rows :=
    Notice.lines_action (by decide) hcurrent (by decide)
  obtain ⟨rows, hrows⟩ := hline
  have hchoose : exec (chooseContext false) w = (.ok (.str w.kube.current.plain),
      { w with
        kubeCalls := w.kubeCalls ++ [.listContexts]
        notices := w.notices ++
          [.action ("Working with " ++ Console.highlight w.kube.current.plain ++ " cluster")] }) := by
    unfold chooseContext
    rw [exec_bind_ok (hnote _ _), exec_bind_ok (exec_get _)]
    simp only [hlist, Bool.false_eq_true, if_false]
    rw [exec_bind_ok (exec_pure _ _)]
    exact exec_bind_ok (exec_say_of_lines hrows _) _
  unfold connect
  rw [exec_bind_ok hchoose, exec_bind_ok (hnote _ _), exec_bind_ok (exec_get _)]
  simp only [hload]
  rfl

end Cluster

def World.requests (w : World) : List KubeCall × List Call := (w.kubeCalls, w.calls)

namespace Resolve
open Cluster

/-- What a resolution of zync asks for, up to the world after it. It may stop while it connects, and
has called no secret then. Or it connects, and then it asks nothing more of the local configuration
and makes the calls that resolving makes from there, all for the secret of zync. -/
inductive Access (m : Manager) (k : Value) (select : Bool) (w : World) : World → Prop
  | stopped {f : Failure} {v after : World} {asked : List KubeCall}
      (hconnect : exec (connect select) w = (.error f, v))
      (hasked : asked <+: connecting w.kube select)
      (hkubeCalls : after.kubeCalls = w.kubeCalls ++ asked) (hcalls : after.calls = w.calls) :
      Access m k select w after
  | connected {v after : World} {calls : List Call}
      (hconnects : Connects w.kube select)
      (hconnect : exec (connect select) w = (.ok (chosen w.kube select), v))
      (hasked : v.kubeCalls = w.kubeCalls ++ connecting w.kube select) (hnone : v.calls = w.calls)
      (hkubeCalls : after.kubeCalls = v.kubeCalls)
      (hcalls : after.calls = v.calls ++ calls)
      (hresolve : (exec (zync m k) v).2.calls = v.calls ++ calls)
      (htarget : ∀ c ∈ calls, c.target = (k, "zync")) :
      Access m k select w after

variable {m : Manager} {k : Value} {select : Bool} {w after after' : World}

/-- Only what has been asked for counts. -/
theorem Access.congr (h : Access m k select w after) (heq : after'.requests = after.requests) :
    Access m k select w after' := by
  obtain ⟨hkube, hsecrets⟩ := Prod.mk.inj heq
  cases h with
  | stopped hconnect hasked hkubeCalls hcalls =>
    exact .stopped hconnect hasked (hkube.trans hkubeCalls) (hsecrets.trans hcalls)
  | connected hconnects hconnect hasked hnone hkubeCalls hcalls hresolve htarget =>
    exact .connected hconnects hconnect hasked hnone (hkube.trans hkubeCalls)
      (hsecrets.trans hcalls) hresolve htarget

/-- Every call that resolving makes is for the secret of zync. -/
private theorem exists_calls_zync (m : Manager) (k : Value) (v : World) :
    ∃ calls, (exec (zync m k) v).2.calls = v.calls ++ calls ∧
      ∀ c ∈ calls, c.target = (k, "zync") := by
  have hkeeps : ∀ p ∈ Policy.zyncTable, p.Keeps (fun c => c.target = (k, "zync")) m k := by
    intro p hp
    have hsecret : (k, p.secret) = (k, "zync") :=
      congrArg (Prod.mk k) (Policy.zyncTable_oneSecret.secret_eq p hp)
    exact ⟨hsecret, fun _ _ => ⟨hsecret, hsecret⟩⟩
  obtain ⟨calls, -, hcalls, htarget, -⟩ := zync_calls hkeeps v
  exact ⟨calls, hcalls, htarget⟩

theorem access_record (m : Manager) (k : Value) (select : Bool) (w : World) :
    Access m k select w (exec (record m k select .zync) w).2 := by
  obtain ⟨-, hcalls, asked, hasked, hkubeCalls, hresult⟩ := connect_asks w rfl
  cases hconnect : exec (connect select) w with
  | mk outcome v =>
    rw [hconnect] at hcalls hkubeCalls hresult
    cases outcome with
    | error f =>
      rw [record, exec_bind_error hconnect]
      exact .stopped hconnect hasked hkubeCalls hcalls
    | ok context =>
      obtain ⟨rfl, rfl, hconnects⟩ := hresult context rfl
      obtain ⟨calls, hresolve, htarget⟩ := exists_calls_zync m k v
      have hrequests : (exec (record m k select .zync) w).2.requests =
          (exec (zync m k) v).2.requests := by
        rw [record, exec_bind_ok hconnect]
        exact view_bind (fun _ => .of_pure _) _ v
      refine Access.congr ?_ hrequests
      exact .connected hconnects hconnect hkubeCalls hcalls (zync_leaves m k v) hresolve hresolve
        htarget

/-- Where the current context can be loaded, the secret is read once it is. -/
theorem Access.exists_read {ns : String} (h : Access m (.str ns) false w after)
    (hw : w.faults = []) (hprint : (Notice.reading ns "zync").lines = .ok [])
    (hlist : w.kube.listError = none) (hload : w.kube.loadError = none)
    (hcurrent : Console.isPlain w.kube.current.plain.toList = true) :
    after.kubeCalls =
        w.kubeCalls ++ [.listContexts, .load (.str w.kube.current.plain)] ∧
      ∃ calls, after.calls = w.calls ++ .read (.str ns) "zync" :: calls ∧
        ∀ c ∈ calls, c.target = (.str ns, "zync") := by
  have hconnected := exec_connect hlist hload hcurrent
  cases h with
  | stopped hconnect => cases hconnected.symm.trans hconnect
  | @connected v _ calls hconnects hconnect hasked hnone hkubeCalls hcalls hresolve htarget =>
    have hfaults : v.faults = [] := by
      obtain ⟨-, rfl⟩ := Prod.mk.inj (hconnected.symm.trans hconnect)
      exact hw
    obtain ⟨more, hmore⟩ := exists_calls_zync_read m hfaults hprint
    obtain rfl := List.append_cancel_left (hresolve.symm.trans hmore)
    rw [hnone] at hcalls
    exact ⟨hkubeCalls.trans hasked, more, hcalls,
      fun c hc => htarget c (List.mem_cons_of_mem _ hc)⟩

/-- The other components are resolved without asking for anything. -/
theorem requests_record_of_ne {t : Target} (ht : t ≠ .zync) :
    (exec (record m k select t) w).2.requests = w.requests := by
  cases t with
  | zync => exact absurd rfl ht
  | apicast => exact Leaves.bind (.of_ofExcept _) (fun _ => .of_pure _) w
  | images => exact Leaves.bind (.of_ofExcept _) (fun _ => .of_pure _) w

end Resolve
end DeployOptions
