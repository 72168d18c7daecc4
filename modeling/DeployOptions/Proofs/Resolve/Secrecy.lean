import DeployOptions.Cluster
import DeployOptions.Options.Record
import DeployOptions.Proofs.Resolve.Zync
import DeployOptions.Proofs.Secret.Presence

/-! The resolution of a component shows nothing of the credentials: what is said on the way and the
summary of the options depend only on which fields were there. -/
namespace DeployOptions

namespace Policy
open Run World

variable {k : Value}

theorem zyncTable_discreet : ∀ p ∈ zyncTable, p.Discreet k "zync" zyncFields := by
  have hrandom (length : Nat) : Paired (Alike k "zync" zyncFields) (fun _ _ => True)
      (Run.randomText length) (Run.randomText length) := by
    intro w w' a b u u' halike hr hr'
    rw [exec_randomText] at hr hr'
    obtain ⟨-, rfl⟩ := Prod.mk.inj hr
    obtain ⟨-, rfl⟩ := Prod.mk.inj hr'
    exact ⟨trivial, halike.notices, halike.faults, halike.kube, halike.store⟩
  have hearlier (resolved resolved' : Resolved) : Paired (Alike k "zync" zyncFields)
      (fun _ _ => True) (earlier "database_password" resolved)
      (earlier "database_password" resolved') := by
    unfold earlier
    split
    · split
      · exact .of_pure trivial
      · intro w w' a b u u' _ _ hr'
        cases hr'
    · exact .of_throw _ _
  simp only [zyncTable, List.forall_mem_cons]
  exact ⟨fun _ _ => hrandom _, fun _ _ => hrandom _, fun _ _ => hrandom _,
    fun r r' => (hearlier r r').bind fun _ _ _ => .of_pure trivial, by simp⟩

end Policy

namespace Resolve
open Run World Policy

variable {m : Manager} {k : Value}

/-- Options that differ in nothing but their credentials have one summary. -/
theorem summary_of_checked {secrets secrets' : ZyncSecrets} {o o' : ZyncOptions}
    (h : checkedZyncOptions m k secrets = .ok o) (h' : checkedZyncOptions m k secrets' = .ok o') :
    o.summary = o'.summary := by
  obtain ⟨images, himages, h⟩ := exists_of_bind_ok (zyncOptions_of_checked h)
  obtain ⟨images', himages', h'⟩ := exists_of_bind_ok (zyncOptions_of_checked h')
  obtain rfl := Except.ok.inj (himages.symm.trans himages')
  obtain ⟨zyncPod, hzync, h⟩ := exists_of_bind_ok h
  obtain ⟨zyncPod', hzync', h'⟩ := exists_of_bind_ok h'
  obtain ⟨quePod, hque, h⟩ := exists_of_bind_ok h
  obtain ⟨quePod', hque', h'⟩ := exists_of_bind_ok h'
  obtain ⟨databasePod, hdatabase, h⟩ := exists_of_bind_ok h
  obtain ⟨databasePod', hdatabase', h'⟩ := exists_of_bind_ok h'
  rw [← Except.ok.inj h, ← Except.ok.inj h']
  rfl

private theorem zync_paired :
    Paired (Alike k "zync" zyncFields) (fun o o' => o.summary = o'.summary) (zync m k)
      (zync m k) := by
  unfold zync
  rw [zyncSecrets_eq]
  have htable := resolveTable_paired (m := m) (k := k)
    (fun p hp => ⟨zyncTable_oneSecret.secret_eq p hp, List.mem_map_of_mem hp,
      zyncTable_discreet p hp⟩) [] []
  have hsecrets (r r' : Resolved) : Paired (Alike k "zync" zyncFields) (fun _ _ => True)
      (Run.ofExcept (consistent r)) (Run.ofExcept (consistent r')) :=
    .of_ofExcept fun _ _ _ _ => trivial
  exact .bind (.inStage _ (htable.bind fun r r' _ => hsecrets r r')) fun _ _ _ =>
    .of_ofExcept fun _ _ => summary_of_checked

private theorem connect_paired (select : Bool) :
    Paired (Alike k "zync" zyncFields) (fun _ _ => True) (Cluster.connect select)
      (Cluster.connect select) := by
  have hnote (c c' : KubeCall) : Paired (Alike k "zync" zyncFields) (fun _ _ => True)
      (Cluster.noteKubeCall c) (Cluster.noteKubeCall c') :=
    .of_modify fun w w' h => ⟨h.notices, h.faults, h.kube, h.store⟩
  have hchoose : Paired (Alike k "zync" zyncFields) Eq (Cluster.chooseContext select)
      (Cluster.chooseContext select) := by
    unfold Cluster.chooseContext
    refine .bind (hnote _ _) fun _ _ _ => .bind .of_get fun v v' hv => ?_
    rw [hv.kube]
    extract_lets kube announce choose
    have hannounce (context : Value) :
        Paired (Alike k "zync" zyncFields) Eq (announce context) (announce context) :=
      .bind (say_paired _) fun _ _ _ => .of_pure rfl
    have hchoose : Paired (Alike k "zync" zyncFields) Eq (choose ()) (choose ()) := by
      unfold choose
      split
      · refine .bind (hnote _ _) fun _ _ _ => ?_
        split
        · exact .bind (say_paired _) fun _ _ _ => .of_throw_bind _ _ _
        · exact hannounce _
      · exact hannounce _
    split
    · exact .of_throw_bind _ _ _
    · exact hchoose
  unfold Cluster.connect
  refine .bind hchoose ?_
  rintro context _ rfl
  refine .bind (hnote _ _) fun _ _ _ => .bind .of_get fun v v' hv => ?_
  rw [hv.kube]
  split
  · exact .of_throw _ _
  · exact .of_pure trivial

/-- Whatever component is resolved, its record has one summary. -/
theorem record_paired (select : Bool) (t : Target) :
    Paired (Alike k "zync" zyncFields) (fun r r' => r.summary = r'.summary)
      (record m k select t) (record m k select t) := by
  unfold record
  cases t with
  | zync =>
    exact .bind (connect_paired select) fun _ _ _ => .bind zync_paired fun o o' h => .of_pure h
  | apicast | images =>
    refine .bind (.of_ofExcept fun o o' h h' => Except.ok.inj (h.symm.trans h')) ?_
    rintro o _ rfl
    exact .of_pure rfl

end Resolve
end DeployOptions
