import DeployOptions.Proofs.Resolve.Checks
import DeployOptions.Proofs.Resolve.Zync
import DeployOptions.Proofs.Secret.Handled

/-! Which failures of a resolution are options errors. The exceptions are a secret that cannot be
asked for, a stored text that is not ASCII, and an image that is no text. -/
namespace DeployOptions

namespace Policy
open Run Secret

variable {m : Manager} {k : Value} {secret : String} {fields known : List String}
  {resolved : Resolved} {p : Policy} {table : List Policy}

private theorem resolveRow_handles (hreach : Reachable k p.secret) (hfield : p.field ∈ fields)
    (hstored : ∃ rows, (Notice.stored p.secret p.field).lines = .ok rows) (hdraws : p.Draws known)
    (hknown : ∀ o ∈ known, (Assoc.get? o resolved).isSome) :
    (resolveRow m k resolved p).Handles (Store.IsAscii k p.secret fields) fun r s =>
      s.IsAscii k p.secret fields ∧ ∃ value, r = Assoc.put p.option value resolved := by
  obtain ⟨rows, hstored⟩ := hstored
  unfold resolveRow
  refine .bind (lookup_handles hreach hfield) fun existing => ?_
  cases existing with
  | some value => exact .of_pure fun _ hs => ⟨hs, value, rfl⟩
  | none =>
    cases hrequired : p.isRequired m with
    | true => exact .of_fail _
    | false =>
      have hdefault : (p.default resolved).Handles (Store.IsAscii k p.secret fields)
          fun _ => Store.IsAscii k p.secret fields := by
        intro w hw
        obtain ⟨value, picks, hexec⟩ := hdraws resolved w hknown
        rw [hexec]
        exact hw
      exact hdefault.bind fun value => (persist_handles hreach hstored value).bind fun _ =>
        .of_pure fun _ hs => ⟨hs, value, rfl⟩

/-- Where the secret can be asked for and its texts are ASCII, a table fails with nothing but
options errors. -/
theorem resolveTable_handles (hreach : Reachable k secret)
    (htable : ∀ p ∈ table, p.secret = secret ∧ p.field ∈ fields ∧
      ∃ rows, (Notice.stored p.secret p.field).lines = .ok rows)
    (hdraws : TableDraws known table) (hknown : ∀ o ∈ known, (Assoc.get? o resolved).isSome) :
    (resolveTable m k resolved table).Handles (Store.IsAscii k secret fields)
      fun _ => Store.IsAscii k secret fields := by
  induction table generalizing resolved known with
  | nil => exact .keep _
  | cons p table ih =>
    simp only [List.forall_mem_cons] at htable
    obtain ⟨⟨rfl, hfield, hstored⟩, htable⟩ := htable
    refine .bind (resolveRow_handles hreach hfield hstored hdraws.1 hknown) fun r w hr => ?_
    obtain ⟨hs, value, rfl⟩ := hr
    exact ih htable hdraws.2 (isSome_put hknown p.option value) w hs

end Policy

def Value.IsText (v : Value) : Prop := ∃ s, v = .str s

namespace Resolve
open Run Policy

variable {α : Type} {m : Manager} {k : Value}

theorem not_escapes_images : ¬ Escapes (images m) := by
  unfold images
  split
  · exact not_escapes_ok _
  · exact not_escapes_options _

private theorem within_eq (stage : String) (e : Except Failure α) :
    within stage e = e.mapError (Failure.inStage stage) := by
  cases e with
  | ok a => rfl
  | error f => cases f <;> rfl

/-- The labels of a pod template are made exactly for an image that is a text. -/
private theorem podTemplate_iff {component : String} {image : Value} {common : Labels} :
    ((∃ labels, podTemplate component image common = .ok labels) ↔ image.IsText) ∧
      (Escapes (podTemplate component image common) ↔ ¬ image.IsText) := by
  cases image with
  | str s =>
    have htext : (Value.str s).IsText := ⟨s, rfl⟩
    exact ⟨iff_of_true ⟨_, rfl⟩ htext,
      iff_of_false (not_escapes_ok _) (not_not_intro htext)⟩
  | _ =>
    refine ⟨iff_of_false ?_ ?_, iff_of_true ⟨_, rfl, rfl⟩ ?_⟩ <;> rintro ⟨_, h⟩ <;> cases h

private theorem escapes_within_images_bind {β : Type} {stage : String}
    {next : ImageOptions → Except Failure β} :
    Escapes (within stage (images m) >>= next) ↔
      (imageOptions m).validate = .ok () ∧ Escapes (next (imageOptions m)) := by
  rw [escapes_bind_iff, within_eq, escapes_inStage_iff, iff_false_intro not_escapes_images,
    false_or]
  simp only [← within_eq, within_eq_ok_iff, images_eq_ok_iff, and_assoc, exists_and_left,
    exists_eq_left']

private theorem escapes_podTemplate_bind {β : Type} {component : String} {image : Value}
    {common : Labels} {next : Labels → Except Failure β} {Q : Prop}
    (h : ∀ labels, Escapes (next labels) ↔ Q) :
    Escapes (podTemplate component image common >>= next) ↔ (image.IsText → Q) := by
  simp only [escapes_bind_iff, h, exists_and_right, podTemplate_iff.1, podTemplate_iff.2]
  by_cases htext : image.IsText <;> simp [htext]

/-- The gateway options fail otherwise than with an options error exactly where all images are
filled in and that of the gateway is no text. -/
theorem escapes_apicast_iff :
    Escapes (apicast m k) ↔
      (imageOptions m).validate = .ok () ∧ ¬ (imageOptions m).apicast.IsText := by
  have hchecked : Escapes (apicast m k) ↔ Escapes (apicastOptions m k) := by
    refine escapes_bind_of_not fun o => ?_
    split
    · exact not_escapes_ok _
    · exact not_escapes_options _
  rw [hchecked, apicastOptions, escapes_within_images_bind]
  refine and_congr_right' ((escapes_podTemplate_bind fun _ =>
    escapes_podTemplate_bind fun _ => iff_false_intro (not_escapes_ok _)).trans ?_)
  simp

theorem escapes_checkedZyncOptions_iff {secrets : ZyncSecrets} :
    Escapes (checkedZyncOptions m k secrets) ↔
      (imageOptions m).validate = .ok () ∧
        ¬ ((imageOptions m).zync.IsText ∧ (imageOptions m).zyncDatabase.IsText) := by
  have hchecked : Escapes (checkedZyncOptions m k secrets) ↔
      Escapes (zyncOptions m k secrets) := by
    refine escapes_bind_of_not fun o => ?_
    split
    · exact not_escapes_ok _
    · exact not_escapes_options _
  rw [hchecked, zyncOptions, escapes_within_images_bind]
  refine and_congr_right' ((escapes_podTemplate_bind fun _ => escapes_podTemplate_bind fun _ =>
    escapes_podTemplate_bind fun _ => iff_false_intro (not_escapes_ok _)).trans ?_)
  simp

/-- Behind the table, the images are all that a failure can escape for. -/
theorem escapes_zyncOutcome_iff {resolved : Except Failure Resolved} :
    Escapes (zyncOutcome m k resolved) ↔
      Escapes resolved ∨ (∃ r, resolved = .ok r ∧ agreement r = .ok ()) ∧
        (imageOptions m).validate = .ok () ∧
        ¬ ((imageOptions m).zync.IsText ∧ (imageOptions m).zyncDatabase.IsText) := by
  cases resolved with
  | error f =>
    have hnone {α : Type} : Escapes (.error f : Except Failure α) ↔ f.isHandled = false :=
      ⟨fun ⟨_, h, hf⟩ => Except.error.inj h ▸ hf, fun hf => ⟨f, rfl, hf⟩⟩
    have hstage : Escapes (zyncOutcome m k (.error f)) ↔ f.isHandled = false := by
      cases f with
      | options e => exact iff_of_false (not_escapes_options _) nofun
      | _ => exact hnone
    simp [hstage, hnone]
  | ok r =>
    rw [or_iff_right (not_escapes_ok r)]
    cases hcheck : agreement r with
    | ok _ =>
      have hagree : ∃ r', (.ok r : Except Failure Resolved) = .ok r' ∧ agreement r' = .ok () :=
        ⟨r, rfl, hcheck⟩
      rw [zyncOutcome_of_agreement hcheck, escapes_checkedZyncOptions_iff, and_iff_right hagree]
    | error cause =>
      rw [zyncOutcome_of_disagreement hcheck]
      refine iff_of_false (not_escapes_options _) ?_
      rintro ⟨⟨_, h, hagree⟩, -⟩
      cases h
      cases hcheck.symm.trans hagree

/-- The images never fail otherwise than with an options error. The gateways do exactly where all
images are filled in and theirs is no text. Whatever faults its calls meet, zync does, as long as
its secret can be asked for and the texts of its fields are ASCII, exactly where its credentials
are there and agree and all images are filled in, but one of its own is no text. -/
theorem failures_handled (m : Manager) (k : Value) :
    ¬ Escapes (images m) ∧
    (Escapes (apicast m k) ↔
      (imageOptions m).validate = .ok () ∧ ¬ (imageOptions m).apicast.IsText) ∧
    ∀ w : World, Secret.Reachable k "zync" → w.store.IsAscii k "zync" zyncFields →
      (Escapes (exec (zync m k) w).1 ↔
        (∃ r, (exec (resolveTable m k [] zyncTable) w).1 = .ok r ∧ agreement r = .ok ()) ∧
          (imageOptions m).validate = .ok () ∧
          ¬ ((imageOptions m).zync.IsText ∧ (imageOptions m).zyncDatabase.IsText)) := by
  refine ⟨not_escapes_images, escapes_apicast_iff, fun w hreach hascii => ?_⟩
  have hplain : ∀ p ∈ zyncTable, '[' ∉ p.secret.toList ∧ '[' ∉ p.field.toList := by decide
  have htable : (resolveTable m k [] zyncTable).Handles
      (Store.IsAscii k "zync" zyncFields) fun _ => Store.IsAscii k "zync" zyncFields :=
    resolveTable_handles hreach
      (fun p hp => ⟨zyncTable_oneSecret.secret_eq p hp, List.mem_map_of_mem hp,
        Notice.lines_stored (hplain p hp).1 (hplain p hp).2⟩)
      zyncTable_draws (by simp)
  rw [exec_zync, escapes_zyncOutcome_iff, or_iff_right (htable.not_escapes hascii)]

/-- A read that is refused is an options error too. -/
theorem failures_handled_refused_read :
    ¬ Escapes (exec (zync { name := .str "own" } (.str "test"))
      { faults := [(.read, .refused 500 none, none)], picks := ⟨fun n => n, 0⟩ }).1 := by
  intro h
  have hns : '[' ∉ "test".toList := by decide
  have hascii : Store.IsAscii (.str "test") "zync" zyncFields [] := by
    intro field _ text htext
    cases htext
  obtain ⟨-, -, himages⟩ := ((failures_handled { name := .str "own" } (.str "test")).2.2
    { faults := [(.read, .refused 500 none, none)], picks := ⟨fun n => n, 0⟩ }
    (Secret.reachable_str hns (by decide)) hascii).mp h
  exact himages ⟨⟨_, rfl⟩, ⟨_, rfl⟩⟩

/-- A password that is stored with other characters than those of ASCII ends a resolution. -/
private theorem exec_zync_of_foreign {ns : String} {w : World} (hw : w.faults = [])
    (hprint : (Notice.reading ns "zync").lines = .ok [])
    (hvalue : w.store.value? (.str ns) "zync" "ZYNC_DATABASE_PASSWORD" =
      .error .foreignStoredText) :
    (exec (zync m (.str ns)) w).1 = .error .foreignStoredText := by
  obtain ⟨resolved, w', hrun, hexec⟩ := exists_tableRun m hw hprint
  rw [hexec]
  cases hrun with
  | kept hfound | made hfound | missing hfound => cases hfound.symm.trans hvalue
  | undecodable hfound =>
    cases hfound.symm.trans hvalue
    rfl

/-- A stored text that is not ASCII, an image that is a number, and a namespace with faulty markup
each end a resolution in a failure that is no options error. -/
theorem failures_unhandled :
    (∃ m, Manager.ofDocument (.map [(.str "metadata", .map [(.str "name", .str "own")])]) = .ok m ∧
      (exec (zync m (.str "test"))
        { store := [(.str "test", [("zync", some [("ZYNC_DATABASE_PASSWORD", "é")])])],
          picks := ⟨fun n => n, 0⟩ }).1 = .error .foreignStoredText) ∧
    (∃ m, Manager.ofDocument (.map [(.str "metadata", .map [(.str "name", .str "own")]),
        (.str "spec", .map [(.str "apicast", .map [(.str "image", .int 5)])])]) = .ok m ∧
      apicast m (.str "test") = .error .missingOperation) ∧
    ∃ m, Manager.ofDocument (.map [(.str "metadata", .map [(.str "name", .str "own")])]) = .ok m ∧
      ∃ f, (exec (zync m (.str "[/x]")) { picks := ⟨fun n => n, 0⟩ }).1 = .error (.markup f) := by
  have hunprintable : (Notice.reading "[/x]" "zync").lines.isOk = false := by decide +kernel
  have hns : '[' ∉ "test".toList := by decide
  refine ⟨⟨_, rfl, exec_zync_of_foreign rfl (Notice.lines_reading_of_not_mem hns (by decide)) rfl⟩,
    ⟨_, rfl, rfl⟩, _, rfl, ?_⟩
  rcases Notice.lines_reading "[/x]" "zync" with h | ⟨f, h⟩
  · rw [h] at hunprintable
    cases hunprintable
  · exact ⟨f, (exec_zync_of_error h).1⟩

end Resolve
end DeployOptions
