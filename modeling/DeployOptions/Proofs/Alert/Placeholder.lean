import DeployOptions.Alert.Bundle
import DeployOptions.Proofs.Text.Replace
import Mathlib.Data.List.Forall2

/-! Bundles without the placeholder. A namespace that shares no character with it leaves no
occurrence behind, whatever the texts were before, and touches nothing but group names and
conditions. -/
namespace DeployOptions

/-- A text in which the placeholder does not occur. -/
def IsSettled (s : String) : Prop := ¬ namespacePlaceholder.toList <:+: s.toList

/-- A namespace that shares no character with the placeholder. -/
def IsForeign (namespaceName : String) : Prop :=
  namespaceName ≠ "" ∧ ∀ c ∈ namespaceName.toList, c ∉ namespacePlaceholder.toList

/-- Whether a text may name a namespace of a cluster, but for its length and its ends: small
letters, digits and hyphens. -/
def isNamespaceName (s : String) : Bool :=
  s ≠ "" && s.toList.all fun c => c.isLower || c.isDigit || c = '-'

theorem isForeign_of_isNamespaceName {s : String} (h : isNamespaceName s = true) : IsForeign s := by
  have hplaceholder : (namespacePlaceholder.toList.all fun c =>
      (c.isLower || c.isDigit || c = '-') = false) = true := by decide
  simp only [isNamespaceName, Bool.and_eq_true, List.all_eq_true, decide_eq_true_eq] at h
  refine ⟨h.1, fun c hc hshared => ?_⟩
  have hname := h.2 c hc
  rw [of_decide_eq_true (List.all_eq_true.mp hplaceholder c hshared)] at hname
  cases hname

/-- Nothing is replaced where there is no placeholder. -/
theorem IsSettled.replaceString_eq {s : String} (h : IsSettled s) (namespaceName : String) :
    Text.replaceString namespacePlaceholder namespaceName s = s := by
  rw [Text.replaceString, Text.replaceAll_of_not_infix h, String.ofList_toList]

theorem IsForeign.isSettled_replaceString {namespaceName : String} (h : IsForeign namespaceName)
    (s : String) : IsSettled (Text.replaceString namespacePlaceholder namespaceName s) := by
  have hne : namespaceName.toList ≠ [] := fun hnil => h.1 (String.toList_eq_nil_iff.mp hnil)
  rw [IsSettled, Text.replaceString, String.toList_ofList]
  exact Text.not_infix_replaceAll (by decide) hne h.2 s.toList

/-- A rule that differs from another one in its condition at most. -/
def Rule.IsRewritten (r rewritten : Rule) : Prop := rewritten = { r with expr := rewritten.expr }

namespace Bundle

def IsSettled (b : Bundle) : Prop :=
  ∀ g ∈ b.groups, DeployOptions.IsSettled g.name ∧ ∀ r ∈ g.rules, DeployOptions.IsSettled r.expr

/-- A bundle without the placeholder is the same for every namespace. -/
theorem IsSettled.withNamespace_eq {b : Bundle} (h : b.IsSettled) (namespaceName : String) :
    b.withNamespace namespaceName = b := by
  have hrules : ∀ g ∈ b.groups, g.rules.map (Rule.withNamespace namespaceName) = g.rules := by
    intro g hg
    refine (List.map_congr_left fun r hr => ?_).trans (List.map_id' g.rules)
    rw [Rule.withNamespace, ((h g hg).2 r hr).replaceString_eq]
  have hgroups : b.groups.map (RuleGroup.withNamespace namespaceName) = b.groups := by
    refine (List.map_congr_left fun g hg => ?_).trans (List.map_id' b.groups)
    rw [RuleGroup.withNamespace, hrules g hg, (h g hg).1.replaceString_eq]
  rw [withNamespace, hgroups]

theorem isSettled_withNamespace {namespaceName : String} (h : IsForeign namespaceName)
    (b : Bundle) : (b.withNamespace namespaceName).IsSettled := by
  intro bound hbound
  obtain ⟨g, -, rfl⟩ := List.mem_map.mp hbound
  refine ⟨h.isSettled_replaceString g.name, fun rewritten hrewritten => ?_⟩
  obtain ⟨r, -, rfl⟩ := List.mem_map.mp hrewritten
  exact h.isSettled_replaceString r.expr

/-- Groups and rules stay as many and in their order, and a rule keeps all but its condition. -/
theorem forall₂_withNamespace (namespaceName : String) (b : Bundle) :
    List.Forall₂ (fun g bound => List.Forall₂ Rule.IsRewritten g.rules bound.rules) b.groups
      (b.withNamespace namespaceName).groups := by
  refine List.forall₂_map_right_iff.mpr (List.forall₂_same.mpr fun g _ => ?_)
  exact List.forall₂_map_right_iff.mpr (List.forall₂_same.mpr fun r _ => rfl)

/-- A namespace that shares no character with the placeholder, as the name of any namespace of a
cluster does not, leaves none in a bundle: neither in a group name nor in a condition. So no further
namespace changes anything, and nothing but these texts has been changed. -/
theorem withNamespace_settles :
    (∀ namespaceName, isNamespaceName namespaceName = true → IsForeign namespaceName) ∧
    ∀ (b : Bundle) (namespaceName : String), IsForeign namespaceName →
      (b.withNamespace namespaceName).IsSettled ∧
      (∀ other, (b.withNamespace namespaceName).withNamespace other =
        b.withNamespace namespaceName) ∧
      (b.withNamespace namespaceName).name = b.name ∧
      (b.withNamespace namespaceName).labels = b.labels ∧
      List.Forall₂ (fun g bound => List.Forall₂ Rule.IsRewritten g.rules bound.rules) b.groups
        (b.withNamespace namespaceName).groups := by
  refine ⟨fun namespaceName => isForeign_of_isNamespaceName, fun b namespaceName h => ?_⟩
  have hsettled := isSettled_withNamespace h b
  exact ⟨hsettled, hsettled.withNamespace_eq, rfl, rfl, forall₂_withNamespace namespaceName b⟩

/-- Copies of the placeholder that overlap are no exception. -/
theorem withNamespace_settles_overlapping :
    isNamespaceName "own-2" = true ∧
    (withNamespace "own-2" ⟨"own", [], [⟨"__NAMESPACE__NAMESPACE__/own.rules",
      [{ alert := .str "Down", expr := "__NAME__NAMESPACE____NAMESPACE__SPACE__",
         forDuration := .str "1m", severity := .critical, message := .str "down" }]⟩]⟩).IsSettled :=
  have hname : isNamespaceName "own-2" = true := by decide
  ⟨hname, (withNamespace_settles.2 _ "own-2" (withNamespace_settles.1 "own-2" hname)).1⟩

end Bundle
end DeployOptions
