import DeployOptions.Proofs.Document.Acceptance
import DeployOptions.Proofs.Resolve.Success

/-! What a document says about containers wins over the defaults, all the way to the options, even
where it says zero, false or nothing at all. -/
namespace DeployOptions
open Document

/-- The resources of a container: its own in the document, even if there is nothing in them, else
the default ones unless the document has switched those off. -/
def requirementsFor (doc : Value) (path : List String) (default : Resources) : Resources :=
  match doc.valueAt path, doc.valueAt ["spec", "resourceRequirementsEnabled"] with
  | .null, .bool false => ⟨.null, .null⟩
  | .null, _ => default
  | own, _ => ⟨own.valueAt ["limits"], own.valueAt ["requests"]⟩

def ownOr (doc : Value) (path : List String) (default : Value) : Value :=
  match doc.valueAt path with
  | .null => default
  | own => own

def pullSecretsFor (doc : Value) : List Value :=
  match (doc.valueAt ["spec", "imagePullSecrets"]).opened with
  | .list items => items.map (Value.valueAt ["name"])
  | _ => [.str "threescale-registry-auth"]

def quantities (cpu memory : String) : Value :=
  .map [(.str "cpu", .str cpu), (.str "memory", .str memory)]

structure ZyncOptions.Follows (doc : Value) (o : ZyncOptions) : Prop where
  resources : o.resources = .proper (requirementsFor doc ["spec", "zync", "appSpec", "resources"]
    ⟨quantities "1" "512Mi", quantities "150m" "250M"⟩)
  queResources :
    o.queResources = .proper (requirementsFor doc ["spec", "zync", "queSpec", "resources"]
      ⟨quantities "1" "512Mi", quantities "250m" "250M"⟩)
  databaseResources :
    o.databaseResources = .proper (requirementsFor doc ["spec", "zync", "databaseResources"]
      ⟨quantities "250m" "2G", quantities "50m" "250M"⟩)
  replicas : o.replicas = ownOr doc ["spec", "zync", "appSpec", "replicas"] (.int 1)
  queReplicas : o.queReplicas = ownOr doc ["spec", "zync", "queSpec", "replicas"] (.int 1)
  affinity : o.affinity = doc.valueAt ["spec", "zync", "appSpec", "affinity"]
  tolerations : o.tolerations = doc.valueAt ["spec", "zync", "appSpec", "tolerations"]
  queAffinity : o.queAffinity = doc.valueAt ["spec", "zync", "queSpec", "affinity"]
  queTolerations : o.queTolerations = doc.valueAt ["spec", "zync", "queSpec", "tolerations"]
  databaseAffinity : o.databaseAffinity = doc.valueAt ["spec", "zync", "databaseAffinity"]
  databaseTolerations :
    o.databaseTolerations = doc.valueAt ["spec", "zync", "databaseTolerations"]
  pullSecrets : o.pullSecrets = .proper (pullSecretsFor doc)

structure ApicastOptions.Follows (doc : Value) (o : ApicastOptions) : Prop where
  stagingResources : o.stagingResources = .proper
    (requirementsFor doc ["spec", "apicast", "stagingSpec", "resources"]
      ⟨quantities "100m" "128Mi", quantities "50m" "64Mi"⟩)
  productionResources : o.productionResources = .proper
    (requirementsFor doc ["spec", "apicast", "productionSpec", "resources"]
      ⟨quantities "1" "128Mi", quantities "500m" "64Mi"⟩)
  stagingReplicas :
    o.stagingReplicas = ownOr doc ["spec", "apicast", "stagingSpec", "replicas"] (.int 1)
  productionReplicas :
    o.productionReplicas = ownOr doc ["spec", "apicast", "productionSpec", "replicas"] (.int 1)
  stagingAffinity : o.stagingAffinity = doc.valueAt ["spec", "apicast", "stagingSpec", "affinity"]
  stagingTolerations :
    o.stagingTolerations = doc.valueAt ["spec", "apicast", "stagingSpec", "tolerations"]
  productionAffinity :
    o.productionAffinity = doc.valueAt ["spec", "apicast", "productionSpec", "affinity"]
  productionTolerations :
    o.productionTolerations = doc.valueAt ["spec", "apicast", "productionSpec", "tolerations"]
  managementApi :
    o.managementApi = ownOr doc ["spec", "apicast", "apicastManagementAPI"] (.str "status")
  opensslVerify_text : o.opensslVerify = .str "true" ∨ o.opensslVerify = .str "false"
  opensslVerify_iff :
    o.opensslVerify = .str "true" ↔ doc.valueAt ["spec", "apicast", "openSSLVerify"] = .bool true
  responseCodes_text : o.responseCodes = .str "true" ∨ o.responseCodes = .str "false"
  responseCodes_iff :
    o.responseCodes = .str "false" ↔ doc.valueAt ["spec", "apicast", "responseCodes"] = .bool false

namespace Document

variable {doc : Value}

/-- A sound count is the number that it is read as, and one where there is none. -/
private theorem count_eq {path : List String} (h : Place.IsSound doc ⟨path, .count⟩) :
    Value.int ((countOf (doc.valueAt path)).getD 1 : Nat) = ownOr doc path (.int 1) := by
  simp only [Place.IsSound, Shape.accepts] at h
  unfold ownOr
  generalize doc.valueAt path = v at h
  cases v with
  | null => rfl
  | int n =>
    have hn : 0 ≤ n := by simpa using h
    exact congrArg Value.int (Int.toNat_of_nonneg hn)
  | _ => cases h

/-- A sound toggle is a truth value or not there. -/
private theorem toggle_cases {path : List String} (h : Place.IsSound doc ⟨path, .toggle⟩) :
    doc.valueAt path = .null ∨ ∃ b, doc.valueAt path = .bool b := by
  simp only [Place.IsSound, Shape.accepts] at h
  generalize doc.valueAt path = v at h
  cases v with
  | null => exact .inl rfl
  | bool b => exact .inr ⟨b, rfl⟩
  | _ => cases h

private theorem ownOr_eq (doc : Value) (path : List String) (default : Value) :
    ownOr doc path default = orElse default (doc.valueAt path) := by
  unfold ownOr
  cases doc.valueAt path <;> rfl

private theorem pullSecrets_eq (doc : Value) :
    (managerAt doc).spec.pullSecrets.getD defaultPullSecrets = pullSecretsFor doc := by
  simp only [managerAt, specAt, pullSecretsOf, pullSecretsFor]
  generalize (doc.valueAt ["spec", "imagePullSecrets"]).opened = v
  cases v <;> rfl

/-- The precedence of the own resources over the toggle, and of the toggle over the default. -/
private theorem containerResources_eq
    (h : Place.IsSound doc ⟨["spec", "resourceRequirementsEnabled"], .toggle⟩)
    (path : List String) (default : Resources) :
    Resolve.containerResources (managerAt doc) (resourcesOf (doc.valueAt path)) default =
      requirementsFor doc path default := by
  have henabled : (managerAt doc).spec.resourceRequirementsEnabled =
      (toggleOf (doc.valueAt ["spec", "resourceRequirementsEnabled"])).getD true := rfl
  unfold Resolve.containerResources requirementsFor
  cases doc.valueAt path with
  | null =>
    rcases toggle_cases h with htoggle | ⟨b, htoggle⟩
    · simp only [henabled, htoggle]
      rfl
    · simp only [henabled, htoggle]
      cases b <;> rfl
  | _ => rfl

private theorem toggle_true_iff {path : List String} (h : Place.IsSound doc ⟨path, .toggle⟩) :
    (toggleOf (doc.valueAt path)).getD false = true ↔ doc.valueAt path = .bool true := by
  rcases toggle_cases h with h | ⟨b, h⟩
  · simp [h, toggleOf]
  · simp [h, toggleOf]

private theorem toggle_false_iff {path : List String} (h : Place.IsSound doc ⟨path, .toggle⟩) :
    (toggleOf (doc.valueAt path)).getD true = false ↔ doc.valueAt path = .bool false := by
  rcases toggle_cases h with h | ⟨b, h⟩
  · simp [h, toggleOf]
  · simp [h, toggleOf]

end Document

namespace Resolve
open Run

variable {doc : Value} {namespaceName : Value}

private theorem flag_cases (b : Bool) :
    Value.str (if b then "true" else "false") = .str "true" ∨
      Value.str (if b then "true" else "false") = .str "false" := by
  cases b
  · exact .inr rfl
  · exact .inl rfl

private theorem flag_eq_true_iff (b : Bool) :
    Value.str (if b then "true" else "false") = .str "true" ↔ b = true := by
  cases b <;> simp

private theorem flag_eq_false_iff (b : Bool) :
    Value.str (if b then "true" else "false") = .str "false" ↔ b = false := by
  cases b <;> simp

/-- Checked zync options are made from the document, whatever the credentials. -/
theorem zync_follows (hsound : ∀ p ∈ places, p.IsSound doc) {secrets : ZyncSecrets}
    {o : ZyncOptions} (h : checkedZyncOptions (managerAt doc) namespaceName secrets = .ok o) :
    o.Follows doc := by
  have htoggle := hsound ⟨["spec", "resourceRequirementsEnabled"], .toggle⟩ (by decide)
  have hmade := zyncOptions_of_checked h
  obtain ⟨images, -, hmade⟩ := exists_of_bind_ok hmade
  obtain ⟨zyncPod, -, hmade⟩ := exists_of_bind_ok hmade
  obtain ⟨quePod, -, hmade⟩ := exists_of_bind_ok hmade
  obtain ⟨databasePod, -, hmade⟩ := exists_of_bind_ok hmade
  rw [← Except.ok.inj hmade]
  exact {
    resources := congrArg Held.proper (containerResources_eq htoggle _ _)
    queResources := congrArg Held.proper (containerResources_eq htoggle _ _)
    databaseResources := congrArg Held.proper (containerResources_eq htoggle _ _)
    replicas := count_eq (hsound _ (by decide))
    queReplicas := count_eq (hsound _ (by decide))
    affinity := rfl
    tolerations := rfl
    queAffinity := rfl
    queTolerations := rfl
    databaseAffinity := rfl
    databaseTolerations := rfl
    pullSecrets := congrArg Held.proper (pullSecrets_eq doc) }

/-- Checked gateway options are made from the document. -/
theorem apicast_follows (hsound : ∀ p ∈ places, p.IsSound doc) {o : ApicastOptions}
    (h : apicast (managerAt doc) namespaceName = .ok o) : o.Follows doc := by
  have htoggle := hsound ⟨["spec", "resourceRequirementsEnabled"], .toggle⟩ (by decide)
  have hverify := toggle_true_iff
    (hsound ⟨["spec", "apicast", "openSSLVerify"], .toggle⟩ (by decide))
  have hcodes := toggle_false_iff
    (hsound ⟨["spec", "apicast", "responseCodes"], .toggle⟩ (by decide))
  have hmade := apicastOptions_of_checked h
  obtain ⟨images, -, hmade⟩ := exists_of_bind_ok hmade
  obtain ⟨stagingPod, -, hmade⟩ := exists_of_bind_ok hmade
  obtain ⟨productionPod, -, hmade⟩ := exists_of_bind_ok hmade
  rw [← Except.ok.inj hmade]
  exact {
    stagingResources := congrArg Held.proper (containerResources_eq htoggle _ _)
    productionResources := congrArg Held.proper (containerResources_eq htoggle _ _)
    stagingReplicas := count_eq (hsound _ (by decide))
    productionReplicas := count_eq (hsound _ (by decide))
    stagingAffinity := rfl
    stagingTolerations := rfl
    productionAffinity := rfl
    productionTolerations := rfl
    managementApi := (ownOr_eq doc _ _).symm
    opensslVerify_text := flag_cases _
    opensslVerify_iff := (flag_eq_true_iff _).trans hverify
    responseCodes_text := flag_cases _
    responseCodes_iff := (flag_eq_false_iff _).trans hcodes }

/-- Whatever document is accepted, the options of zync and of the gateways say what it says,
whenever they are resolved. -/
theorem options_follow_document {entries : List (Value × Value)} {m : Manager}
    (h : Manager.ofDocument (.map entries) = .ok m) :
    (∀ (namespaceName : Value) (w : World) (o : ZyncOptions),
      (exec (zync m namespaceName) w).1 = .ok o → o.Follows (.map entries)) ∧
    ∀ (namespaceName : Value) (o : ApicastOptions),
      apicast m namespaceName = .ok o → o.Follows (.map entries) := by
  obtain ⟨rfl, hsound⟩ := sound_of_accepted h
  refine ⟨fun namespaceName w o ho => ?_, fun namespaceName o ho => apicast_follows hsound ho⟩
  rw [exec_zync] at ho
  obtain ⟨r, -, -, hchecked⟩ := exists_resolved ho
  exact zync_follows hsound hchecked

/-- A document with an internal database and default images has options of both kinds. -/
private theorem exists_followed (entries : List (Value × Value))
    (hm : Manager.ofDocument (.map entries) = .ok (managerAt (.map entries)))
    (himages : imageOverrides (managerAt (.map entries)) = [.null, .null, .null])
    (hinternal : (managerAt (.map entries)).hasExternalDatabase = false)
    (hgateways : (apicast (managerAt (.map entries)) (.str "test")).isOk = true) :
    ∃ m o a, Manager.ofDocument (.map entries) = .ok m ∧
      (exec (zync m (.str "test")) { picks := ⟨fun n => n, 0⟩ }).1 = .ok o ∧
      apicast m (.str "test") = .ok a := by
  obtain ⟨o, ho⟩ := exists_ok_of_empty (by simp [himages]) hinternal (by simp [himages])
    (show '[' ∉ "test".toList by decide) (by decide) ⟨fun n => n, 0⟩
  cases ha : apicast (managerAt (.map entries)) (.str "test") with
  | error f =>
    rw [ha] at hgateways
    cases hgateways
  | ok a => exact ⟨_, o, a, hm, ho, ha⟩

/-- A document that says nothing gets every default, one that wants no requirements gets none, and
zero, false and an empty section or list are said as well as anything else. -/
theorem options_follow_document_silent_and_falsy :
    (∃ m o a, Manager.ofDocument (.map [(.str "metadata", .map [(.str "name", .str "own")])]) =
        .ok m ∧
      (exec (zync m (.str "test")) { picks := ⟨fun n => n, 0⟩ }).1 = .ok o ∧
      apicast m (.str "test") = .ok a ∧
      o.resources = .proper ⟨quantities "1" "512Mi", quantities "150m" "250M"⟩ ∧
      o.queResources = .proper ⟨quantities "1" "512Mi", quantities "250m" "250M"⟩ ∧
      o.databaseResources = .proper ⟨quantities "250m" "2G", quantities "50m" "250M"⟩ ∧
      a.stagingResources = .proper ⟨quantities "100m" "128Mi", quantities "50m" "64Mi"⟩ ∧
      a.productionResources = .proper ⟨quantities "1" "128Mi", quantities "500m" "64Mi"⟩ ∧
      o.replicas = .int 1 ∧ o.affinity = .null ∧
      o.pullSecrets = .proper [.str "threescale-registry-auth"] ∧
      a.managementApi = .str "status" ∧ a.opensslVerify = .str "false" ∧
      a.responseCodes = .str "true") ∧
    (∃ m o a, Manager.ofDocument (.map [(.str "metadata", .map [(.str "name", .str "own")]),
        (.str "spec", .map [(.str "resourceRequirementsEnabled", .bool false)])]) = .ok m ∧
      (exec (zync m (.str "test")) { picks := ⟨fun n => n, 0⟩ }).1 = .ok o ∧
      apicast m (.str "test") = .ok a ∧
      o.databaseResources = .proper ⟨.null, .null⟩ ∧ a.stagingResources = .proper ⟨.null, .null⟩) ∧
    ∃ m o a, Manager.ofDocument (.map [(.str "metadata", .map [(.str "name", .str "own")]),
        (.str "spec", .map [(.str "imagePullSecrets", .list []),
          (.str "zync", .map [(.str "appSpec",
            .map [(.str "replicas", .int 0), (.str "resources", .map [])])]),
          (.str "apicast", .map [(.str "responseCodes", .bool false),
            (.str "stagingSpec", .map [(.str "replicas", .int 0)])])])]) = .ok m ∧
      (exec (zync m (.str "test")) { picks := ⟨fun n => n, 0⟩ }).1 = .ok o ∧
      apicast m (.str "test") = .ok a ∧
      o.resources = .proper ⟨.null, .null⟩ ∧ o.replicas = .int 0 ∧ o.queReplicas = .int 1 ∧
      o.queResources = .proper ⟨quantities "1" "512Mi", quantities "250m" "250M"⟩ ∧
      o.pullSecrets = .proper [] ∧ a.stagingReplicas = .int 0 ∧
      a.responseCodes = .str "false" := by
  refine ⟨?_, ?_, ?_⟩
  · obtain ⟨m, o, a, hm, ho, ha⟩ := exists_followed
      [(.str "metadata", .map [(.str "name", .str "own")])] rfl rfl rfl rfl
    obtain ⟨hzync, hapicast⟩ := options_follow_document hm
    have hfollows := hzync _ _ o ho
    have hgateways := hapicast _ a ha
    exact ⟨m, o, a, hm, ho, ha, hfollows.resources, hfollows.queResources,
      hfollows.databaseResources, hgateways.stagingResources, hgateways.productionResources,
      hfollows.replicas, hfollows.affinity, hfollows.pullSecrets, hgateways.managementApi,
      hgateways.opensslVerify_text.resolve_left (mt hgateways.opensslVerify_iff.mp nofun),
      hgateways.responseCodes_text.resolve_right (mt hgateways.responseCodes_iff.mp nofun)⟩
  · obtain ⟨m, o, a, hm, ho, ha⟩ := exists_followed
      [(.str "metadata", .map [(.str "name", .str "own")]),
        (.str "spec", .map [(.str "resourceRequirementsEnabled", .bool false)])] rfl rfl rfl rfl
    obtain ⟨hzync, hapicast⟩ := options_follow_document hm
    exact ⟨m, o, a, hm, ho, ha, (hzync _ _ o ho).databaseResources,
      (hapicast _ a ha).stagingResources⟩
  · obtain ⟨m, o, a, hm, ho, ha⟩ := exists_followed
      [(.str "metadata", .map [(.str "name", .str "own")]),
        (.str "spec", .map [(.str "imagePullSecrets", .list []),
          (.str "zync", .map [(.str "appSpec",
            .map [(.str "replicas", .int 0), (.str "resources", .map [])])]),
          (.str "apicast", .map [(.str "responseCodes", .bool false),
            (.str "stagingSpec", .map [(.str "replicas", .int 0)])])])] rfl rfl rfl rfl
    obtain ⟨hzync, hapicast⟩ := options_follow_document hm
    have hfollows := hzync _ _ o ho
    have hgateways := hapicast _ a ha
    exact ⟨m, o, a, hm, ho, ha, hfollows.resources, hfollows.replicas, hfollows.queReplicas,
      hfollows.queResources, hfollows.pullSecrets, hgateways.stagingReplicas,
      hgateways.responseCodes_iff.mpr rfl⟩

end Resolve
end DeployOptions
