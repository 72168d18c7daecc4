import DeployOptions.Proofs.Label
import DeployOptions.Proofs.Resolve.Success

/-! The labels of the five tiers: what selects the pods of a tier selects the pods of no other. -/
namespace DeployOptions
open Assoc

inductive Tier
  | zync
  | zyncQue
  | zyncDatabase
  | apicastStaging
  | apicastProduction
deriving DecidableEq, Repr

namespace Tier

def name : Tier → String
  | .zync => "zync"
  | .zyncQue => "zync-que"
  | .zyncDatabase => "zync-database"
  | .apicastStaging => "apicast-staging"
  | .apicastProduction => "apicast-production"

def subsystem : Tier → String
  | .zync | .zyncQue | .zyncDatabase => "zync"
  | .apicastStaging | .apicastProduction => "apicast"

def element : Tier → String
  | .zync => "zync"
  | .zyncQue => "zync-que"
  | .zyncDatabase => "database"
  | .apicastStaging => "staging"
  | .apicastProduction => "production"

def image (images : ImageOptions) : Tier → Value
  | .zync | .zyncQue => images.zync
  | .zyncDatabase => images.zyncDatabase
  | .apicastStaging | .apicastProduction => images.apicast

section Options

variable (z : ZyncOptions) (a : ApicastOptions)

def common : Tier → Held Labels
  | .zync | .zyncQue | .zyncDatabase => z.commonLabels
  | .apicastStaging | .apicastProduction => a.commonLabels

/-- The labels of its group, which select its pods. -/
def group : Tier → Held Labels
  | .zync => z.zyncLabels
  | .zyncQue => z.queLabels
  | .zyncDatabase => z.databaseLabels
  | .apicastStaging => a.stagingLabels
  | .apicastProduction => a.productionLabels

def podTemplate : Tier → Held Labels
  | .zync => z.podTemplateLabels
  | .zyncQue => z.quePodTemplateLabels
  | .zyncDatabase => z.databasePodTemplateLabels
  | .apicastStaging => a.stagingPodTemplateLabels
  | .apicastProduction => a.productionPodTemplateLabels

end Options

/-- No two tiers are called the same in their groups, whatever their subsystems. -/
theorem element_injective : ∀ t u : Tier, t.element = u.element → t = u := by
  intro t u
  cases t <;> cases u <;> decide

end Tier

namespace Resolve

variable {m : Manager} {k : String}

theorem isMap_commonLabels (m : Manager) (subsystem : String) :
    IsMap (commonLabels m subsystem) := by
  simp [IsMap, commonLabels]

/-- The labels of a group are the common ones and one that names the tier. -/
theorem get?_tierLabels {common : Labels} (hcommon : IsMap common) (tier : String) :
    get? k (tierLabels common tier) =
      if "threescale_component_element" = k then some (.str tier) else get? k common := by
  rw [← Labels.get?_merge_singleton hcommon]
  exact Labels.get?_merge_label [common] "threescale_component_element" (.str tier)

def groupLabels (m : Manager) (t : Tier) : Labels :=
  tierLabels (commonLabels m t.subsystem) t.element

theorem get?_groupLabels (m : Manager) (t : Tier) :
    get? k (groupLabels m t) =
      if "threescale_component_element" = k then some (.str t.element)
      else get? k (commonLabels m t.subsystem) :=
  get?_tierLabels (isMap_commonLabels m t.subsystem) t.element

theorem isMap_groupLabels (m : Manager) (t : Tier) : IsMap (groupLabels m t) :=
  Labels.isMap_merge _

theorem commonLabels_isWithin (m : Manager) (t : Tier) :
    (commonLabels m t.subsystem).IsWithin (groupLabels m t) := by
  intro k v hk
  have hne : "threescale_component_element" ≠ k := by
    rintro rfl
    simp [commonLabels, get?] at hk
  rw [get?_groupLabels, if_neg hne, hk]

theorem groupLabels_isWithin (m : Manager) (t : Tier) (image : String) :
    (groupLabels m t).IsWithin (Labels.podTemplate t.name image (groupLabels m t)) := by
  refine Labels.isWithin_podTemplate (isMap_groupLabels m t) ?_ t.name image
  rw [get?_groupLabels, if_neg (by decide)]
  simp [commonLabels, get?]

/-- Nothing above metering has a version, so that the version is the one of the image. -/
theorem get?_version (m : Manager) (t : Tier) (image : String) :
    get? "rht.comp_ver" (Labels.podTemplate t.name image (groupLabels m t)) =
      some (.str (String.ofList (Image.version image.toList))) := by
  have hgroup : get? "rht.comp_ver" (groupLabels m t) = none := by
    rw [get?_groupLabels, if_neg (by decide)]
    simp [commonLabels, get?]
  rw [Labels.get?_podTemplate (isMap_groupLabels m t), if_neg (by decide), hgroup, Option.none_or]
  simp [Labels.metering, get?]

/-- A group does not select the pods of another tier: these say which tier they belong to. -/
theorem not_groupLabels_isWithin {t u : Tier} (h : t ≠ u) (image : String) :
    ¬ (groupLabels m t).IsWithin (Labels.podTemplate u.name image (groupLabels m u)) := by
  intro hwithin
  have helement (t : Tier) : get? "threescale_component_element" (groupLabels m t) =
      some (.str t.element) := by
    rw [get?_groupLabels, if_pos rfl]
  have hown := groupLabels_isWithin m u image _ _ (helement u)
  have hother := hwithin _ _ (helement t)
  have hsame := Value.str.inj (Option.some.inj (hother.symm.trans hown))
  exact h (Tier.element_injective t u hsame)

/-- Options that were resolved hold these labels. -/
private theorem exists_images {namespaceName namespaceName' : Value} {secrets : ZyncSecrets}
    {z : ZyncOptions} {a : ApicastOptions}
    (hz : checkedZyncOptions m namespaceName secrets = .ok z)
    (ha : apicast m namespaceName' = .ok a) :
    ∃ image : Tier → String, ∀ t : Tier, t.image (imageOptions m) = .str (image t) ∧
      t.common z a = .proper (commonLabels m t.subsystem) ∧
      t.group z a = .proper (groupLabels m t) ∧
      t.podTemplate z a = .proper (Labels.podTemplate t.name (image t) (groupLabels m t)) := by
  obtain ⟨images, himages, hz⟩ := exists_of_bind_ok (zyncOptions_of_checked hz)
  obtain rfl := (images_eq_ok_iff.mp (within_eq_ok_iff.mp himages)).2
  obtain ⟨_, hzyncPod, hz⟩ := exists_of_bind_ok hz
  obtain ⟨_, hquePod, hz⟩ := exists_of_bind_ok hz
  obtain ⟨_, hdatabasePod, hz⟩ := exists_of_bind_ok hz
  obtain ⟨zync, hzync, rfl⟩ := exists_of_podTemplate hzyncPod
  obtain ⟨que, hque, rfl⟩ := exists_of_podTemplate hquePod
  obtain ⟨database, hdatabase, rfl⟩ := exists_of_podTemplate hdatabasePod
  obtain rfl := Except.ok.inj hz
  obtain ⟨images, himages, ha⟩ := exists_of_bind_ok (apicastOptions_of_checked ha)
  obtain rfl := (images_eq_ok_iff.mp (within_eq_ok_iff.mp himages)).2
  obtain ⟨_, hstagingPod, ha⟩ := exists_of_bind_ok ha
  obtain ⟨_, hproductionPod, ha⟩ := exists_of_bind_ok ha
  obtain ⟨staging, hstaging, rfl⟩ := exists_of_podTemplate hstagingPod
  obtain ⟨production, hproduction, rfl⟩ := exists_of_podTemplate hproductionPod
  obtain rfl := Except.ok.inj ha
  refine ⟨fun
    | .zync => zync
    | .zyncQue => que
    | .zyncDatabase => database
    | .apicastStaging => staging
    | .apicastProduction => production, fun t => ?_⟩
  cases t with
  | zync => exact ⟨hzync, rfl, rfl, rfl⟩
  | zyncQue => exact ⟨hque, rfl, rfl, rfl⟩
  | zyncDatabase => exact ⟨hdatabase, rfl, rfl, rfl⟩
  | apicastStaging => exact ⟨hstaging, rfl, rfl, rfl⟩
  | apicastProduction => exact ⟨hproduction, rfl, rfl, rfl⟩

/-- Whenever the options of zync and of the gateways are resolved, the common labels of each tier
are within those of its group, and these within those of its pods, which say the name of the tier
and the version of its image. The labels of a group are within the pod labels of no other tier. -/
theorem labels_select_own_tier {namespaceName namespaceName' : Value} {w : World}
    {z : ZyncOptions} {a : ApicastOptions} (hz : (Run.exec (zync m namespaceName) w).1 = .ok z)
    (ha : apicast m namespaceName' = .ok a) :
    ∃ common group pod : Tier → Labels,
      (∀ t : Tier, t.common z a = .proper (common t) ∧ t.group z a = .proper (group t) ∧
        t.podTemplate z a = .proper (pod t)) ∧
      (∀ t : Tier, (common t).IsWithin (group t) ∧ (group t).IsWithin (pod t) ∧
        get? "deploymentConfig" (pod t) = some (.str t.name) ∧
        ∃ image, t.image (imageOptions m) = .str image ∧
          get? "rht.comp_ver" (pod t) =
            some (.str (String.ofList (Image.version image.toList)))) ∧
      ∀ t u : Tier, t ≠ u → ¬ (group t).IsWithin (pod u) := by
  rw [exec_zync] at hz
  obtain ⟨r, -, -, hchecked⟩ := exists_resolved hz
  obtain ⟨image, hlabels⟩ := exists_images hchecked ha
  refine ⟨fun t : Tier => commonLabels m t.subsystem, groupLabels m,
    fun t => Labels.podTemplate t.name (image t) (groupLabels m t),
    fun t => (hlabels t).2, fun t => ⟨commonLabels_isWithin m t, groupLabels_isWithin m t (image t),
      ?_, image t, (hlabels t).1, get?_version m t (image t)⟩,
    fun t u h => not_groupLabels_isWithin h (image u)⟩
  rw [Labels.get?_podTemplate (isMap_groupLabels m t), if_pos rfl]

/-- With an app label and an image of its own, the que worker is still told from zync by what
selects it. -/
theorem labels_select_own_tier_own_image :
    ∃ m z a zync que, Manager.ofDocument (.map [(.str "metadata", .map [(.str "name", .str "own")]),
        (.str "spec", .map [(.str "appLabel", .str "zync-que"),
          (.str "zync", .map [(.str "image", .str "own/zync:v2.1")])])]) = .ok m ∧
      (Run.exec (Resolve.zync m (.str "test")) { picks := ⟨fun n => n, 0⟩ }).1 = .ok z ∧
      apicast m (.str "test") = .ok a ∧
      z.zyncLabels = .proper zync ∧ z.quePodTemplateLabels = .proper que ∧
      get? "rht.comp_ver" que = some (.str "v2.1") ∧ ¬ Labels.IsWithin zync que := by
  let m : Manager := { name := .str "own"
                       spec := { appLabel := .str "zync-que"
                                 zync := { image := .str "own/zync:v2.1" } } }
  have himages : imageOverrides m = [.null, .str "own/zync:v2.1", .null] := rfl
  obtain ⟨z, hz⟩ := exists_ok_of_empty (m := m) (by simp [himages]) rfl (by simp [himages])
    (show '[' ∉ "test".toList by decide) (by decide) ⟨fun n => n, 0⟩
  obtain ⟨common, group, pod, hheld, hown, hother⟩ :=
    labels_select_own_tier hz (show apicast m (.str "test") = .ok _ from rfl)
  obtain ⟨-, -, -, image, himage, hversion⟩ := hown .zyncQue
  obtain rfl := Value.str.inj himage
  exact ⟨m, z, _, group .zync, pod .zyncQue, rfl, hz, rfl, (hheld .zync).2.1,
    (hheld .zyncQue).2.2, hversion, hother .zync .zyncQue (by decide)⟩

end Resolve
end DeployOptions
