import DeployOptions.Proofs.Run
import DeployOptions.Resolve

/-! The checks that options have to pass, those of zync once the credentials are there. -/
namespace DeployOptions

def missingFields (required : List (String × Bool)) : List String :=
  (required.filter fun f => !f.2).map Prod.fst

theorem missingFields_eq_nil_iff {required : List (String × Bool)} :
    missingFields required = [] ↔ ∀ f ∈ required, f.2 = true := by
  simp [missingFields, List.filter_eq_nil_iff]

theorem missingFields_cons (name : String) (filled : Bool) (required : List (String × Bool)) :
    missingFields ((name, filled) :: required) =
      if filled then missingFields required else name :: missingFields required := by
  cases filled <;> rfl

/-- A record that does not pass says which fields are missing. -/
theorem checkRequired_eq (record : String) (required : List (String × Bool)) :
    checkRequired record required =
      if missingFields required = [] then .ok ()
      else .error (.requiredEmpty record (missingFields required)) := by
  rw [missingFields, checkRequired]
  split
  · next h => rw [if_pos h]
  · next h => rw [if_neg h]

/-- A record passes if every required field is filled in. -/
theorem checkRequired_eq_ok_iff {record : String} {required : List (String × Bool)} :
    checkRequired record required = .ok () ↔ ∀ f ∈ required, f.2 = true := by
  rw [checkRequired_eq, ← missingFields_eq_nil_iff]
  split
  · next h => exact iff_of_true rfl h
  · next h => exact iff_of_false nofun h

theorem eq_of_checkRequired {record : String} {required : List (String × Bool)} {cause : Cause}
    (h : checkRequired record required = .error cause) :
    cause = .requiredEmpty record (missingFields required) ∧ missingFields required ≠ [] := by
  rw [checkRequired_eq] at h
  split at h
  · cases h
  · next hmissing => exact ⟨(Except.error.inj h).symm, hmissing⟩

theorem checkRequired_of_missing {record : String} {required : List (String × Bool)}
    (h : missingFields required ≠ []) :
    checkRequired record required = .error (.requiredEmpty record (missingFields required)) := by
  rw [checkRequired_eq, if_neg h]

theorem Value.isTruthy_str {s : String} : (Value.str s).isTruthy = true ↔ s ≠ "" := by
  simp [isTruthy]

namespace Resolve

def imageOverrides (m : Manager) : List Value :=
  [m.spec.apicast.image, m.spec.zync.image, m.spec.zync.postgresqlImage]

/-- An image is a text where the document names none or a text, and empty only where the document
says so. -/
private theorem exists_orElse (default : String) (hdefault : default ≠ "") {v : Value}
    (hv : v = .null ∨ ∃ s, v = .str s) :
    ∃ image, Document.orElse (.str default) v = .str image ∧ (image ≠ "" ↔ v ≠ .str "") := by
  rcases hv with rfl | ⟨s, rfl⟩
  · exact ⟨default, rfl, by simp [hdefault]⟩
  · exact ⟨s, rfl, by simp⟩

variable {m : Manager} {ns : String}

/-- With images that are texts, their check fails exactly where one is empty. -/
private theorem images_eq (himages : ∀ v ∈ imageOverrides m, v = .null ∨ ∃ s, v = .str s) :
    ∃ apicast zync database, imageOptions m = ⟨.str apicast, .str zync, .str database⟩ ∧
      ((∀ v ∈ imageOverrides m, v ≠ .str "") ∧ images m = .ok (imageOptions m) ∨
        (∃ v ∈ imageOverrides m, v = .str "") ∧ ∃ f, images m = .error f) := by
  simp only [imageOverrides, List.forall_mem_cons] at himages
  obtain ⟨hapicast, hzync, hdatabase, -⟩ := himages
  obtain ⟨apicast, hapicast, hapicastEmpty⟩ :=
    exists_orElse apicastImage (by decide) hapicast
  obtain ⟨zync, hzync, hzyncEmpty⟩ := exists_orElse zyncImage (by decide) hzync
  obtain ⟨database, hdatabase, hdatabaseEmpty⟩ :=
    exists_orElse zyncDatabaseImage (by decide) hdatabase
  have hoptions : imageOptions m = ⟨.str apicast, .str zync, .str database⟩ := by
    rw [imageOptions, hapicast, hzync, hdatabase]
  have hvalid : (imageOptions m).validate = .ok () ↔ ∀ v ∈ imageOverrides m, v ≠ .str "" := by
    rw [ImageOptions.validate, checkRequired_eq_ok_iff, hoptions]
    simp only [ImageOptions.required, imageOverrides, List.forall_mem_cons, Value.isTruthy_str,
      hapicastEmpty, hzyncEmpty, hdatabaseEmpty]
    simp
  refine ⟨apicast, zync, database, hoptions, ?_⟩
  by_cases hall : ∀ v ∈ imageOverrides m, v ≠ .str ""
  · exact .inl ⟨hall, by rw [images, hvalid.mpr hall]⟩
  · refine .inr ⟨by simpa using hall, ?_⟩
    rw [images]
    split
    · next hok => exact absurd (hvalid.mp hok) hall
    · exact ⟨_, rfl⟩

theorem images_eq_ok_iff {o : ImageOptions} :
    images m = .ok o ↔ (imageOptions m).validate = .ok () ∧ imageOptions m = o := by
  unfold images
  split
  · next h => simp [h]
  · next h => simp [h]

theorem within_eq_ok_iff {α : Type} {stage : String} {e : Except Failure α} {a : α} :
    within stage e = .ok a ↔ e = .ok a := by
  cases e with
  | ok a => rfl
  | error f => cases f <;> simp [within]

/-- Options that are made but do not pass are an error of their stage. -/
private theorem eq_of_checked_record {α : Type} {record stage : String}
    {required : List (String × Bool)} {made : α} {e : OptionsError}
    (h : (match checkRequired record required with
      | .ok () => pure made
      | .error cause => throw (.options ⟨cause, [stage]⟩) : Except Failure α) =
        .error (.options e)) :
    e = ⟨.requiredEmpty record (missingFields required), [stage]⟩ ∧
      missingFields required ≠ [] := by
  split at h
  · cases h
  · next cause hcause =>
    obtain ⟨rfl, hmissing⟩ := eq_of_checkRequired hcause
    cases h
    exact ⟨rfl, hmissing⟩

/-- Images that are not all there are what the images are missing, read in some stage. -/
private theorem eq_of_within_images {stage : String} {e : OptionsError}
    (h : within stage (images m) = .error (.options e)) :
    e = ⟨.requiredEmpty "AmpImagesOptions" (missingFields (imageOptions m).required),
        [stage, "get_amp_images_options validating"]⟩ ∧
      missingFields (imageOptions m).required ≠ [] := by
  unfold images at h
  split at h
  · cases h
  · next cause hinvalid =>
    obtain ⟨rfl, hmissing⟩ := eq_of_checkRequired hinvalid
    cases h
    exact ⟨rfl, hmissing⟩

section PodTemplate

variable {component : String} {image : Value} {common labels : Labels}

/-- The labels of a pod template are made for an image that is a text. -/
theorem exists_of_podTemplate (h : podTemplate component image common = .ok labels) :
    ∃ text, image = .str text ∧ labels = Labels.podTemplate component text common := by
  cases image with
  | str text => exact ⟨text, rfl, (Except.ok.inj h).symm⟩
  | _ => cases h

private theorem podTemplate_ne_options {e : OptionsError} :
    podTemplate component image common ≠ .error (.options e) := by
  intro h
  cases image <;> cases h

end PodTemplate

section Checked

variable {namespaceName : Value} {secrets : ZyncSecrets} {e : OptionsError}

/-- Checked options are those that were made, if they pass. -/
theorem checkedZyncOptions_eq_ok_iff {o : ZyncOptions} :
    checkedZyncOptions m namespaceName secrets = .ok o ↔
      zyncOptions m namespaceName secrets = .ok o ∧ o.validate = .ok () := by
  constructor
  · intro h
    obtain ⟨made, hmade, hchecked⟩ := exists_of_bind_ok h
    split at hchecked
    · next hvalid =>
      obtain rfl := Except.ok.inj hchecked
      exact ⟨hmade, hvalid⟩
    · cases hchecked
  · rintro ⟨hmade, hvalid⟩
    rw [checkedZyncOptions, hmade]
    simp only [bind, Except.bind, hvalid]
    rfl

theorem zyncOptions_of_checked {o : ZyncOptions}
    (h : checkedZyncOptions m namespaceName secrets = .ok o) :
    zyncOptions m namespaceName secrets = .ok o :=
  (checkedZyncOptions_eq_ok_iff.mp h).1

theorem apicastOptions_of_checked {o : ApicastOptions} (h : apicast m namespaceName = .ok o) :
    apicastOptions m namespaceName = .ok o := by
  obtain ⟨made, hmade, hchecked⟩ := exists_of_bind_ok h
  split at hchecked
  · exact hmade.trans hchecked
  · cases hchecked

/-- Behind the credentials, an options error says which images are missing, or else what the
options are missing that were made. -/
theorem eq_of_checked (h : checkedZyncOptions m namespaceName secrets = .error (.options e)) :
    e = ⟨.requiredEmpty "AmpImagesOptions" (missingFields (imageOptions m).required),
        ["get_zync_options reading image options", "get_amp_images_options validating"]⟩ ∧
      missingFields (imageOptions m).required ≠ [] ∨
    ∃ made, zyncOptions m namespaceName secrets = .ok made ∧
      e = ⟨.requiredEmpty "ZyncOptions" (missingFields made.required),
        ["get_zync_options validating"]⟩ ∧ missingFields made.required ≠ [] := by
  rcases exists_of_bind_error h with hoptions | ⟨made, hmade, hinvalid⟩
  · rcases exists_of_bind_error hoptions with hfail | ⟨_, -, hoptions⟩
    · exact .inl (eq_of_within_images hfail)
    rcases exists_of_bind_error hoptions with hfail | ⟨_, -, hoptions⟩
    · exact absurd hfail podTemplate_ne_options
    rcases exists_of_bind_error hoptions with hfail | ⟨_, -, hoptions⟩
    · exact absurd hfail podTemplate_ne_options
    rcases exists_of_bind_error hoptions with hfail | ⟨_, -, hoptions⟩
    · exact absurd hfail podTemplate_ne_options
    · cases hoptions
  · exact .inr ⟨made, hmade, eq_of_checked_record hinvalid⟩

/-- The same for the gateways. -/
theorem eq_of_apicast (h : apicast m namespaceName = .error (.options e)) :
    e = ⟨.requiredEmpty "AmpImagesOptions" (missingFields (imageOptions m).required),
        ["get_apicast_options reading image options", "get_amp_images_options validating"]⟩ ∧
      missingFields (imageOptions m).required ≠ [] ∨
    ∃ made, apicastOptions m namespaceName = .ok made ∧
      e = ⟨.requiredEmpty "ApicastOptions" (missingFields made.required),
        ["get_apicast_options validating"]⟩ ∧ missingFields made.required ≠ [] := by
  rcases exists_of_bind_error h with hoptions | ⟨made, hmade, hinvalid⟩
  · rcases exists_of_bind_error hoptions with hfail | ⟨_, -, hoptions⟩
    · exact .inl (eq_of_within_images hfail)
    rcases exists_of_bind_error hoptions with hfail | ⟨_, -, hoptions⟩
    · exact absurd hfail podTemplate_ne_options
    rcases exists_of_bind_error hoptions with hfail | ⟨_, -, hoptions⟩
    · exact absurd hfail podTemplate_ne_options
    · cases hoptions
  · exact .inr ⟨made, hmade, eq_of_checked_record hinvalid⟩

/-- The only options error behind the credentials is that of an empty field. -/
theorem exists_requiredEmpty_of_checked
    (h : checkedZyncOptions m namespaceName secrets = .error (.options e)) :
    ∃ record fields, e.cause = .requiredEmpty record fields := by
  rcases eq_of_checked h with ⟨rfl, -⟩ | ⟨made, -, rfl, -⟩
  · exact ⟨_, _, rfl⟩
  · exact ⟨_, _, rfl⟩

end Checked

/-- Given the credentials, the options pass exactly where no credential, no image and not the
namespace is empty. -/
theorem exists_checked_iff (himages : ∀ v ∈ imageOverrides m, v = .null ∨ ∃ s, v = .str s)
    (secrets : ZyncSecrets) :
    (∃ o, checkedZyncOptions m (.str ns) secrets = .ok o) ↔
      secrets.databasePassword ≠ "" ∧ secrets.databaseUrl ≠ "" ∧
        secrets.secretKeyBase ≠ "" ∧ secrets.authenticationToken ≠ "" ∧
        (∀ v ∈ imageOverrides m, v ≠ .str "") ∧ ns ≠ "" := by
  obtain ⟨apicast, zync, database, hoptions, ⟨hall, hok⟩ | ⟨hempty, f, herror⟩⟩ :=
    images_eq himages
  · have hmade : ∃ made, zyncOptions m (.str ns) secrets = .ok made := by
      unfold zyncOptions
      rw [hok, hoptions]
      exact ⟨_, rfl⟩
    obtain ⟨made, hmade⟩ := hmade
    have hvalid : made.validate = .ok () ↔ secrets.databasePassword ≠ "" ∧
        secrets.databaseUrl ≠ "" ∧ secrets.secretKeyBase ≠ "" ∧
        secrets.authenticationToken ≠ "" ∧ ns ≠ "" := by
      have hrelease : release ≠ "" := by decide
      have hfields := hmade
      unfold zyncOptions at hfields
      rw [hok, hoptions] at hfields
      rw [← Except.ok.inj hfields, ZyncOptions.validate, checkRequired_eq_ok_iff]
      simp only [ZyncOptions.required, List.forall_mem_cons, Value.isTruthy_str,
        Value.isPresent, Held.isSet]
      simp [hrelease]
    have hchecked : (∃ o, checkedZyncOptions m (.str ns) secrets = .ok o) ↔
        made.validate = .ok () := by
      simp only [checkedZyncOptions_eq_ok_iff, hmade, Except.ok.injEq, exists_eq_left']
    rw [hchecked, hvalid]
    constructor
    · rintro ⟨hpassword, hurl, hkeyBase, htoken, hns⟩
      exact ⟨hpassword, hurl, hkeyBase, htoken, hall, hns⟩
    · rintro ⟨hpassword, hurl, hkeyBase, htoken, -, hns⟩
      exact ⟨hpassword, hurl, hkeyBase, htoken, hns⟩
  · have hfail : ∃ g, checkedZyncOptions m (.str ns) secrets = .error g := by
      unfold checkedZyncOptions zyncOptions
      rw [herror]
      cases f <;> exact ⟨_, rfl⟩
    obtain ⟨g, hfail⟩ := hfail
    obtain ⟨v, hv, hvempty⟩ := hempty
    rw [hfail]
    constructor
    · rintro ⟨o, ho⟩
      cases ho
    · rintro ⟨-, -, -, -, hall, -⟩
      exact absurd hvempty (hall v hv)

end Resolve
end DeployOptions
