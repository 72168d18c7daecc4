import DeployOptions.Alert.Bundle
import DeployOptions.Proofs.Document.Place
import DeployOptions.Proofs.Value.Alike

/-! The manifest of a bundle says all that the bundle does. Bundles whose manifests are equal as
documents are equal, and a namespace is put into a manifest as it is put into its bundle. -/
namespace DeployOptions

namespace Rule

/-- Rules that say the same, whatever is empty about a link that is empty. -/
structure Alike (r r' : Rule) : Prop where
  alert : r.alert.Alike r'.alert
  expr : r.expr = r'.expr
  forDuration : r.forDuration.Alike r'.forDuration
  severity : r.severity = r'.severity
  message : r.message.Alike r'.message
  sopUrl : r.sopUrl.Alike r'.sopUrl ∨ r.sopUrl.isTruthy = false ∧ r'.sopUrl.isTruthy = false

/-- A rule that passes on nothing but texts. -/
structure IsWritten (r : Rule) : Prop where
  alert : ∃ s, r.alert = .str s
  forDuration : ∃ s, r.forDuration = .str s
  message : ∃ s, r.message = .str s
  sopUrl : ∃ s, r.sopUrl = .str s

end Rule

structure RuleGroup.Alike (g g' : RuleGroup) : Prop where
  name : g.name = g'.name
  rules : List.Forall₂ Rule.Alike g.rules g'.rules

namespace Bundle

/-- Bundles that say the same; their labels are compared as mappings. -/
structure Alike (b b' : Bundle) : Prop where
  name : b.name = b'.name
  labels : ∀ key, Option.Rel Value.Alike (Assoc.get? key b.labels) (Assoc.get? key b'.labels)
  groups : List.Forall₂ RuleGroup.Alike b.groups b'.groups

structure IsWritten (b : Bundle) : Prop where
  keys : (b.labels.map Prod.fst).Nodup
  labels : ∀ key v, Assoc.get? key b.labels = some v → ∃ s, v = .str s
  rules : ∀ g ∈ b.groups, ∀ r ∈ g.rules, r.IsWritten

end Bundle

theorem Severity.text_injective {s s' : Severity} (h : s.text = s'.text) : s = s' := by
  cases s <;> cases s' <;> first | rfl | exact absurd h (by decide)

private theorem lookup?_labels (labels : Labels) (key : String) :
    Value.lookup? key (labels.map fun (k, v) => (.str k, v)) = Assoc.get? key labels := by
  induction labels with
  | nil => rfl
  | cons e labels ih =>
    rw [List.map_cons, Value.lookup?, Assoc.get?, ih]

private theorem nodup_labels {labels : Labels} (h : (labels.map Prod.fst).Nodup) :
    ((labels.map fun (k, v) => (Value.str k, v)).map Prod.fst).Nodup := by
  have hkeys : (labels.map fun (k, v) => (Value.str k, v)).map Prod.fst =
      (labels.map Prod.fst).map Value.str := by
    simp only [List.map_map]
    rfl
  rw [hkeys]
  exact List.Pairwise.map Value.str (fun _ _ hne => mt Value.str.inj hne) h

variable {r r' : Rule} {g g' : RuleGroup} {b b' : Bundle}

private def linkEntry (link : Value) : List (Value × Value) :=
  if link.isTruthy then [(.str "sop_url", link)] else []

private theorem nodup_annotations (message link : Value) :
    (((.str "message", message) :: linkEntry link).map Prod.fst).Nodup := by
  unfold linkEntry
  split <;> simp

private theorem get_link (message link : Value) :
    Value.get ((.str "message", message) :: linkEntry link) "sop_url" =
      if link.isTruthy then link else .null := by
  unfold linkEntry
  split <;> rfl

/-- A link is told from one that is left out, since a link that is written is not null. -/
private theorem link_alike {link link' : Value}
    (h : Value.Alike (if link.isTruthy then link else .null)
      (if link'.isTruthy then link' else .null)) :
    link.Alike link' ∨ link.isTruthy = false ∧ link'.isTruthy = false := by
  cases hlink : link.isTruthy with
  | true =>
    cases hlink' : link'.isTruthy with
    | true => exact .inl (by simpa only [hlink, hlink', if_true] using h)
    | false =>
      simp only [hlink, hlink', if_true, Bool.false_eq_true, if_false] at h
      cases h
      cases hlink
  | false =>
    cases hlink' : link'.isTruthy with
    | true =>
      simp only [hlink, hlink', if_true, Bool.false_eq_true, if_false] at h
      cases h
      cases hlink'
    | false => exact .inr ⟨rfl, rfl⟩

/-- Rules are written alike only if they say the same. -/
theorem Rule.alike_of_toValue (h : r.toValue.Alike r'.toValue) : r.Alike r' := by
  have hkeys : ([.str "alert", .str "annotations", .str "expr", .str "for", .str "labels"] :
      List Value).Nodup := by simp
  have hnotes : (Value.map ((.str "message", r.message) :: linkEntry r.sopUrl)).Alike
      (.map ((.str "message", r'.message) :: linkEntry r'.sopUrl)) := h.get hkeys "annotations"
  have hlink := hnotes.get (nodup_annotations _ _) "sop_url"
  rw [get_link, get_link] at hlink
  have hlabels : (Value.map [(.str "severity", .str r.severity.text)]).Alike
      (.map [(.str "severity", .str r'.severity.text)]) := h.get hkeys "labels"
  have hseverity : (Value.str r.severity.text).Alike (.str r'.severity.text) :=
    hlabels.get (by simp) "severity"
  have hexpr : (Value.str r.expr).Alike (.str r'.expr) := h.get hkeys "expr"
  exact {
    alert := h.get hkeys "alert"
    expr := (Value.str.inj hexpr.eq_of_str).symm
    forDuration := h.get hkeys "for"
    severity := (Severity.text_injective (Value.str.inj hseverity.eq_of_str)).symm
    message := hnotes.get (nodup_annotations _ _) "message"
    sopUrl := link_alike hlink }

theorem RuleGroup.alike_of_toValue (h : g.toValue.Alike g'.toValue) : g.Alike g' := by
  have hkeys : ([.str "name", .str "rules"] : List Value).Nodup := by simp
  have hname : (Value.str g.name).Alike (.str g'.name) := h.get hkeys "name"
  have hrules : (Value.list (g.rules.map Rule.toValue)).Alike
      (.list (g'.rules.map Rule.toValue)) := h.get hkeys "rules"
  have hforall := List.forall₂_map_left_iff.mp (List.forall₂_map_right_iff.mp hrules.forall₂)
  exact ⟨(Value.str.inj hname.eq_of_str).symm, hforall.imp fun _ _ => Rule.alike_of_toValue⟩

/-- Manifests are alike only if their bundles say the same. -/
theorem Bundle.alike_of_manifest (hlabels : (b'.labels.map Prod.fst).Nodup)
    (h : b.manifest.Alike b'.manifest) : b.Alike b' := by
  have hkeys : ([.str "apiVersion", .str "kind", .str "metadata", .str "spec"] :
      List Value).Nodup := by simp
  have hnames : ([.str "name", .str "labels"] : List Value).Nodup := by simp
  have hmetadata : (Value.map [(.str "name", .str b.name), (.str "labels", b.labels.toValue)]).Alike
      (.map [(.str "name", .str b'.name), (.str "labels", b'.labels.toValue)]) :=
    h.get hkeys "metadata"
  have hname : (Value.str b.name).Alike (.str b'.name) := hmetadata.get hnames "name"
  have hmapping : b.labels.toValue.Alike b'.labels.toValue := hmetadata.get hnames "labels"
  have hspec : (Value.map [(.str "groups", .list (b.groups.map RuleGroup.toValue))]).Alike
      (.map [(.str "groups", .list (b'.groups.map RuleGroup.toValue))]) := h.get hkeys "spec"
  have hgroups : (Value.list (b.groups.map RuleGroup.toValue)).Alike
      (.list (b'.groups.map RuleGroup.toValue)) := hspec.get (by simp) "groups"
  have hforall := List.forall₂_map_left_iff.mp (List.forall₂_map_right_iff.mp hgroups.forall₂)
  refine ⟨(Value.str.inj hname.eq_of_str).symm, fun key => ?_,
    hforall.imp fun _ _ => RuleGroup.alike_of_toValue⟩
  have hlookup := hmapping.lookup? (nodup_labels hlabels) key
  rwa [lookup?_labels, lookup?_labels] at hlookup

/-- Texts are alike only if they are equal. -/
private theorem eq_of_alike {v v' : Value} (hv : ∃ s, v = .str s) (h : v.Alike v') : v = v' := by
  obtain ⟨s, rfl⟩ := hv
  exact h.eq_of_str.symm

private theorem eq_of_forall₂ {α : Type} {R : α → α → Prop} {l l' : List α}
    (h : List.Forall₂ R l l') (heq : ∀ a ∈ l, ∀ a' ∈ l', R a a' → a = a') : l = l' := by
  induction h with
  | nil => rfl
  | cons hr _ ih =>
    simp only [List.forall_mem_cons] at heq
    rw [heq.1.1 hr, ih fun a ha a' ha' => (heq.2 a ha).2 a' ha']

/-- An empty text is the only text that is an empty link. -/
theorem Rule.Alike.eq (h : r.Alike r') (hr : r.IsWritten) (hr' : r'.IsWritten) : r = r' := by
  have hlink : r.sopUrl = r'.sopUrl := by
    rcases h.sopUrl with hlink | ⟨hempty, hempty'⟩
    · exact eq_of_alike hr.sopUrl hlink
    · obtain ⟨s, hs⟩ := hr.sopUrl
      obtain ⟨s', hs'⟩ := hr'.sopUrl
      rw [hs] at hempty ⊢
      rw [hs'] at hempty' ⊢
      simp only [Value.isTruthy, Bool.not_eq_false', String.isEmpty_iff] at hempty hempty'
      rw [hempty, hempty']
  have halert := eq_of_alike hr.alert h.alert
  have hexpr := h.expr
  have hduration := eq_of_alike hr.forDuration h.forDuration
  have hseverity := h.severity
  have hmessage := eq_of_alike hr.message h.message
  cases r
  cases r'
  simp only at halert hexpr hduration hseverity hmessage hlink
  rw [halert, hexpr, hduration, hseverity, hmessage, hlink]

theorem RuleGroup.Alike.eq (h : g.Alike g') (hg : ∀ r ∈ g.rules, r.IsWritten)
    (hg' : ∀ r ∈ g'.rules, r.IsWritten) : g = g' := by
  have hname := h.name
  have hrules : g.rules = g'.rules :=
    eq_of_forall₂ h.rules fun r hr r' hr' halike => halike.eq (hg r hr) (hg' r' hr')
  cases g
  cases g'
  simp only at hname hrules
  rw [hname, hrules]

/-- Bundles of texts say the same only if they are equal, their labels as mappings. -/
theorem Bundle.Alike.eq (h : b.Alike b') (hb : b.IsWritten) (hb' : b'.IsWritten) :
    b.name = b'.name ∧ (∀ key, Assoc.get? key b.labels = Assoc.get? key b'.labels) ∧
      b.groups = b'.groups := by
  refine ⟨h.name, fun key => ?_,
    eq_of_forall₂ h.groups fun g hg g' hg' halike => halike.eq (hb.rules g hg) (hb'.rules g' hg')⟩
  have hlabel := h.labels key
  generalize hfound : Assoc.get? key b.labels = found at hlabel ⊢
  generalize Assoc.get? key b'.labels = found' at hlabel ⊢
  cases hlabel with
  | none => rfl
  | some hv => rw [eq_of_alike (hb.labels key _ hfound) hv]

namespace Value

/-- What a mapping becomes when the value under a key is changed; all else stays. -/
def mapEntry (key : String) (f : Value → Value) : Value → Value
  | .map entries => .map (entries.map fun
      | (.str k, v) => (.str k, if k = key then f v else v)
      | e => e)
  | v => v

def mapItems (f : Value → Value) : Value → Value
  | .list items => .list (items.map f)
  | v => v

def mapText (f : String → String) : Value → Value
  | .str s => .str (f s)
  | v => v

end Value

namespace Manifest

def bindText (namespaceName : String) : Value → Value :=
  .mapText (Text.replaceString namespacePlaceholder namespaceName)

def bindRule (namespaceName : String) : Value → Value := .mapEntry "expr" (bindText namespaceName)

def bindGroup (namespaceName : String) (group : Value) : Value :=
  (group.mapEntry "name" (bindText namespaceName)).mapEntry "rules"
    (.mapItems (bindRule namespaceName))

/-- A manifest with a namespace put into its groups, and nowhere else. -/
def bind (namespaceName : String) : Value → Value :=
  .mapEntry "spec" (.mapEntry "groups" (.mapItems (bindGroup namespaceName)))

def rules (manifest : Value) : List Value :=
  (manifest.valueAt ["spec", "groups"]).items.flatMap fun group => (group.valueAt ["rules"]).items

end Manifest

theorem Rule.toValue_withNamespace (namespaceName : String) (r : Rule) :
    (r.withNamespace namespaceName).toValue = Manifest.bindRule namespaceName r.toValue := rfl

theorem RuleGroup.toValue_withNamespace (namespaceName : String) (g : RuleGroup) :
    (g.withNamespace namespaceName).toValue = Manifest.bindGroup namespaceName g.toValue := by
  have hrules : (g.withNamespace namespaceName).rules.map Rule.toValue =
      (g.rules.map Rule.toValue).map (Manifest.bindRule namespaceName) := by
    simp only [RuleGroup.withNamespace, List.map_map]
    exact List.map_congr_left fun r _ => r.toValue_withNamespace namespaceName
  rw [RuleGroup.toValue, hrules]
  rfl

namespace Bundle

theorem manifest_withNamespace (b : Bundle) (namespaceName : String) :
    (b.withNamespace namespaceName).manifest = Manifest.bind namespaceName b.manifest := by
  have hgroups : (b.withNamespace namespaceName).groups.map RuleGroup.toValue =
      (b.groups.map RuleGroup.toValue).map (Manifest.bindGroup namespaceName) := by
    simp only [Bundle.withNamespace, List.map_map]
    exact List.map_congr_left fun g _ => g.toValue_withNamespace namespaceName
  rw [Bundle.manifest, hgroups]
  rfl

theorem rules_manifest (b : Bundle) : Manifest.rules b.manifest = b.rules.map Rule.toValue := by
  have hgroups : (b.manifest.valueAt ["spec", "groups"]).items = b.groups.map RuleGroup.toValue :=
    rfl
  have hrules (g : RuleGroup) : (g.toValue.valueAt ["rules"]).items = g.rules.map Rule.toValue :=
    rfl
  simp only [Manifest.rules, hgroups, List.flatMap_map, hrules, rules, List.map_flatMap]

/-- Bundles whose manifests are equal as documents say the same. So if all they pass on is text they
are equal, down to the links that are left out where they are empty. The rules of a manifest are
those of its bundle, in order, and a namespace is put into a bundle as it is put into the manifest:
into the names of groups and the conditions of rules, and nowhere else. -/
theorem manifest_faithful :
    (∀ b b' : Bundle, (b'.labels.map Prod.fst).Nodup → b.manifest.Alike b'.manifest → b.Alike b') ∧
    (∀ b b' : Bundle, b.IsWritten → b'.IsWritten → b.manifest.Alike b'.manifest →
      b.name = b'.name ∧ (∀ key, Assoc.get? key b.labels = Assoc.get? key b'.labels) ∧
        b.groups = b'.groups) ∧
    (∀ b : Bundle, Manifest.rules b.manifest = b.rules.map Rule.toValue) ∧
    ∀ (b : Bundle) (namespaceName : String),
      (b.withNamespace namespaceName).manifest = Manifest.bind namespaceName b.manifest :=
  ⟨fun _ _ => alike_of_manifest,
    fun _ _ hb hb' h => (alike_of_manifest hb'.keys h).eq hb hb',
    rules_manifest, manifest_withNamespace⟩

/-- The order of labels makes no difference. -/
theorem manifest_faithful_reordered :
    ∃ b b' : Bundle, b.labels = [("app", .str "own"), ("role", .str "alert-rules")] ∧
      b'.labels = [("role", .str "alert-rules"), ("app", .str "own")] ∧
      b.manifest.Alike b'.manifest ∧ b.groups = b'.groups ∧
      ∀ key, Assoc.get? key b.labels = Assoc.get? key b'.labels := by
  let rule : Rule := ⟨.str "Down", "up == 0", .str "1m", .critical, .str "down", .str ""⟩
  let groups : List RuleGroup := [⟨"own/own.rules", [rule]⟩]
  let b : Bundle := ⟨"own", [("app", .str "own"), ("role", .str "alert-rules")], groups⟩
  let b' : Bundle := ⟨"own", [("role", .str "alert-rules"), ("app", .str "own")], groups⟩
  have hrules : ∀ g ∈ groups, ∀ r ∈ g.rules, r.IsWritten := by
    intro g hg r hr
    obtain rfl := List.mem_singleton.mp hg
    obtain rfl := List.mem_singleton.mp hr
    exact ⟨⟨_, rfl⟩, ⟨_, rfl⟩, ⟨_, rfl⟩, ⟨_, rfl⟩⟩
  have htexts {k k' x x' : String} : ∀ key v,
      Assoc.get? key [(k, Value.str x), (k', .str x')] = some v → ∃ s, v = .str s := by
    intro key v h
    simp only [Assoc.get?] at h
    split at h
    · exact ⟨x, (Option.some.inj h).symm⟩
    · split at h
      · exact ⟨x', (Option.some.inj h).symm⟩
      · cases h
  have hb : b.IsWritten := ⟨by decide, htexts, hrules⟩
  have hb' : b'.IsWritten := ⟨by decide, htexts, hrules⟩
  have hlabels : b.labels.toValue.Alike b'.labels.toValue :=
    .map (.swap _ _ _) (.cons (.mk (.refl _)) (.cons (.mk (.refl _)) .nil))
  have hmetadata : (Value.map [(.str "name", .str "own"), (.str "labels", b.labels.toValue)]).Alike
      (.map [(.str "name", .str "own"), (.str "labels", b'.labels.toValue)]) :=
    .map (.refl _) (.cons (.mk (.refl _)) (.cons (.mk hlabels) .nil))
  have halike : b.manifest.Alike b'.manifest :=
    .map (.refl _) (.cons (.mk (.refl _)) (.cons (.mk (.refl _)) (.cons (.mk hmetadata)
      (.cons (.mk (.refl _)) .nil))))
  obtain ⟨-, hlookup, hgroups⟩ := manifest_faithful.2.1 b b' hb hb' halike
  exact ⟨b, b', rfl, rfl, halike, hgroups, hlookup⟩

end Bundle
end DeployOptions
