import DeployOptions.Proofs.Resolve.Zync
import Mathlib.Data.List.Infix

/-! The way of an options error to the caller. Every stage that it passes adds its name to the
message, and of the stages of a resolution the first that fails is the one that it comes from. -/
namespace DeployOptions
open Run

namespace OptionsError

variable {e : OptionsError} {op : String} {ops : List String}

/-- The error behind some operations, the first of which it passes first. -/
def through (ops : List String) (e : OptionsError) : OptionsError :=
  ops.foldl (fun e op => e.withContext op) e

def trail (e : OptionsError) : List String → List OptionsError
  | [] => [e]
  | op :: ops => e :: (e.withContext op).trail ops

@[simp] theorem through_concat :
    e.through (ops ++ [op]) = (e.through ops).withContext op := by
  rw [through, List.foldl_append]
  rfl

@[simp] theorem kind_withContext : (e.withContext op).kind = e.kind := rfl

theorem message_withContext : (e.withContext op).message = op ++ ": " ++ e.message := rfl

theorem kind_through : (e.through ops).kind = e.kind := by
  induction ops using List.reverseRecOn with
  | nil => rfl
  | append_singleton ops op ih => rw [through_concat, kind_withContext, ih]

/-- The names stand before the message from the last operation to the first. -/
theorem message_through :
    (e.through ops).message = ": ".intercalate (ops.reverse ++ [e.message]) := by
  induction ops using List.reverseRecOn with
  | nil => simp [through]
  | append_singleton ops op ih =>
    rw [through_concat, message_withContext, ih, List.reverse_concat, List.cons_append,
      String.intercalate_cons_of_ne_nil (by simp)]

theorem trail_eq : e.trail ops = ops.inits.map fun passed => e.through passed := by
  induction ops generalizing e with
  | nil => rfl
  | cons op ops ih =>
    rw [trail, ih, List.inits_cons, List.map_cons, List.map_map]
    rfl

end OptionsError

namespace Resolve

/-- The first stage of zync that fails, by the error that it fails with and the operations that
this error passes. What the stages behind it would come to plays no part. -/
inductive ZyncStops (m : Manager) (k : Value) (w : World) :
    OptionsError → List String → World → Prop
  | secrets {e : OptionsError} {w' : World}
      (hsecrets : exec (zyncSecrets m k) w = (.error (.options e), w')) :
      ZyncStops m k w e ["get_zync_options reading secret options"] w'
  | images {secrets : ZyncSecrets} {cause : Cause} {w' : World}
      (hsecrets : exec (zyncSecrets m k) w = (.ok secrets, w'))
      (himages : (imageOptions m).validate = .error cause) :
      ZyncStops m k w ⟨cause, []⟩
        ["get_amp_images_options validating", "get_zync_options reading image options"] w'
  | validation {secrets : ZyncSecrets} {made : ZyncOptions} {cause : Cause} {w' : World}
      (hsecrets : exec (zyncSecrets m k) w = (.ok secrets, w'))
      (himages : (imageOptions m).validate = .ok ())
      (hmade : zyncOptions m k secrets = .ok made) (hinvalid : made.validate = .error cause) :
      ZyncStops m k w ⟨cause, []⟩ ["get_zync_options validating"] w'

inductive ApicastStops (m : Manager) (k : Value) : OptionsError → List String → Prop
  | images {cause : Cause} (himages : (imageOptions m).validate = .error cause) :
      ApicastStops m k ⟨cause, []⟩
        ["get_amp_images_options validating", "get_apicast_options reading image options"]
  | validation {made : ApicastOptions} {cause : Cause}
      (himages : (imageOptions m).validate = .ok ())
      (hmade : apicastOptions m k = .ok made) (hinvalid : made.validate = .error cause) :
      ApicastStops m k ⟨cause, []⟩ ["get_apicast_options validating"]

variable {m : Manager} {k : Value} {w w' : World} {e : OptionsError}

/-- Images that do not pass are an error of the stage that reads them. -/
private theorem within_images {cause : Cause} (stage : String)
    (h : (imageOptions m).validate = .error cause) :
    within stage (images m) =
      .error (.options ⟨cause, [stage, "get_amp_images_options validating"]⟩) := by
  rw [images, h]
  rfl

private theorem validate_of_within {stage : String} {o : ImageOptions}
    (h : within stage (images m) = .ok o) : (imageOptions m).validate = .ok () :=
  (images_eq_ok_iff.mp (within_eq_ok_iff.mp h)).1

private theorem zync_stops (h : exec (zync m k) w = (.error (.options e), w')) :
    ∃ inner ops, ZyncStops m k w inner ops w' ∧ e = inner.through ops := by
  rcases zync_error_cases h with ⟨inner, hsecrets, rfl⟩ | ⟨secrets, hsecrets, hchecked⟩
  · exact ⟨inner, _, .secrets hsecrets, rfl⟩
  · rcases eq_of_checked hchecked with ⟨rfl, hmissing⟩ | ⟨made, hmade, rfl, hmissing⟩
    · exact ⟨_, _, .images hsecrets (checkRequired_of_missing hmissing), rfl⟩
    · obtain ⟨_, himages, -⟩ := exists_of_bind_ok hmade
      exact ⟨_, _, .validation hsecrets (validate_of_within himages) hmade
        (checkRequired_of_missing hmissing), rfl⟩

private theorem ZyncStops.exec_zync {inner : OptionsError} {ops : List String}
    (h : ZyncStops m k w inner ops w') :
    exec (zync m k) w = (.error (.options (inner.through ops)), w') := by
  cases h with
  | secrets hsecrets =>
    rw [exec_zync_eq, hsecrets]
    rfl
  | images hsecrets himages =>
    rw [exec_zync_of_secrets hsecrets, checkedZyncOptions, zyncOptions, within_images _ himages]
    rfl
  | validation hsecrets _ hmade hinvalid =>
    rw [exec_zync_of_secrets hsecrets, checkedZyncOptions, hmade]
    simp only [bind, Except.bind, hinvalid]
    rfl

/-- Where secrets cannot be read at all, zync stops with that, whatever else is wrong. -/
theorem zyncStops_of_unreachable {ns reason : String}
    (hprint : (Notice.reading ns "zync").lines = .ok [])
    (hfault : Assoc.get? Verb.read w.faults = some (.unreachable reason, none)) :
    ZyncStops m (.str ns) w ⟨.unreachable reason, []⟩
      ["get_zync_options reading secret options"] (w.afterRead ns "zync") := by
  have hlookup : exec (Secret.lookup (.str ns) "zync" "ZYNC_DATABASE_PASSWORD") w =
      (.error (.options ⟨.unreachable reason, []⟩), w.afterRead ns "zync") :=
    exec_bind_error (Secret.exec_read?_of_unreachable hprint hfault) _
  exact .secrets (exec_bind_error (exec_bind_error (exec_bind_error hlookup _) _) _)

private theorem apicast_stops (h : apicast m k = .error (.options e)) :
    ∃ inner ops, ApicastStops m k inner ops ∧ e = inner.through ops := by
  rcases eq_of_apicast h with ⟨rfl, hmissing⟩ | ⟨made, hmade, rfl, hmissing⟩
  · exact ⟨_, _, .images (checkRequired_of_missing hmissing), rfl⟩
  · obtain ⟨_, himages, -⟩ := exists_of_bind_ok hmade
    exact ⟨_, _, .validation (validate_of_within himages) hmade
      (checkRequired_of_missing hmissing), rfl⟩

private theorem ApicastStops.apicast_eq {inner : OptionsError} {ops : List String}
    (h : ApicastStops m k inner ops) :
    apicast m k = .error (.options (inner.through ops)) := by
  cases h with
  | images himages =>
    rw [apicast, apicastOptions, within_images _ himages]
    rfl
  | validation _ hmade hinvalid =>
    rw [apicast, hmade]
    simp only [bind, Except.bind, hinvalid]
    rfl

/-- Behind any operations an error is of the same kind with the same attributes, and its message
stands behind their names, the last one first; on the way there each error stays what it was. The
errors of a resolution are those of its first stage that fails, behind the operations that this
stage stands in. -/
theorem error_of_first_stage :
    (∀ (e : OptionsError) (ops : List String),
      (e.through ops).kind = e.kind ∧
      (e.through ops).message = ": ".intercalate (ops.reverse ++ [e.message]) ∧
      (e.trail ops).map (fun met => (met.kind, met.message)) = ops.inits.map fun passed =>
        (e.kind, ": ".intercalate (passed.reverse ++ [e.message]))) ∧
    (∀ m k w e w', exec (zync m k) w = (.error (.options e), w') ↔
      ∃ inner ops, ZyncStops m k w inner ops w' ∧ e = inner.through ops) ∧
    ∀ m k e, apicast m k = .error (.options e) ↔
      ∃ inner ops, ApicastStops m k inner ops ∧ e = inner.through ops := by
  refine ⟨fun e ops => ⟨OptionsError.kind_through, OptionsError.message_through, ?_⟩,
    fun m k w e w' => ⟨zync_stops, ?_⟩, fun m k e => ⟨apicast_stops, ?_⟩⟩
  · rw [OptionsError.trail_eq, List.map_map]
    refine List.map_congr_left fun passed _ => ?_
    exact Prod.ext OptionsError.kind_through OptionsError.message_through
  · rintro ⟨inner, ops, hstops, rfl⟩
    exact hstops.exec_zync
  · rintro ⟨inner, ops, hstops, rfl⟩
    exact hstops.apicast_eq

/-- With the secret out of reach, an image left empty and no namespace, only the first is met. -/
theorem error_of_first_stage_all_broken :
    let m : Manager := { name := .str "own", spec := { zync := { image := .str "" } } }
    let w : World := { faults := [(.read, .unreachable "gone", none)], picks := ⟨fun n => n, 0⟩ }
    (imageOptions m).validate = .error (.requiredEmpty "AmpImagesOptions" ["zync_image"]) ∧
      ∃ e w', exec (zync m (.str "")) w = (.error (.options e), w') ∧
        e.kind = .clusterConnection ∧
        e.message = "get_zync_options reading secret options: " ++
          "Failed to connect to the Kubernetes cluster: gone" := by
  intro m w
  have hstops : ZyncStops m (.str "") w _ _ _ :=
    zyncStops_of_unreachable (Notice.lines_reading_of_not_mem (by decide) (by decide)) rfl
  exact ⟨rfl, _, _, (error_of_first_stage.2.1 _ _ _ _ _).mpr ⟨_, _, hstops, rfl⟩, rfl, by decide⟩

end Resolve
end DeployOptions
