import DeployOptions.Proofs.Document.Place

/-! Reading a document as a walk over its places: a reader either gives what stands at them, or
fails with the fault of the first one that is not sound. -/
namespace DeployOptions.Document

/-- A reader of some places of a document gives `a` if they are all sound, and else fails with the
first fault. -/
def Reads {α : Type} (doc : Value) (reader : Except Cause α) (l : List Place) (a : α) : Prop :=
  reader = match firstFault doc l with
    | none => .ok a
    | some cause => .error cause

section Rules

variable {α β : Type} {doc : Value} {l l' : List Place} {a : α} {b : β}

theorem firstFault_append (doc : Value) (l l' : List Place) :
    firstFault doc (l ++ l') = (firstFault doc l).or (firstFault doc l') := by
  rw [firstFault, List.find?_append, Option.map_or]
  rfl

theorem firstFault_cons_of_sound {p : Place} (h : p.IsSound doc) (l : List Place) :
    firstFault doc (p :: l) = firstFault doc l := by
  rw [firstFault, List.find?_cons_of_neg (by rw [h]; decide)]
  rfl

theorem firstFault_cons_of_not_sound {p : Place} (h : ¬ p.IsSound doc) (l : List Place) :
    firstFault doc (p :: l) = some (p.fault doc) := by
  rw [firstFault, List.find?_cons_of_pos (by simpa [Place.IsSound] using h)]
  rfl

namespace Reads

theorem pure (a : α) : Reads doc (pure a) [] a := rfl

theorem bind {reader : Except Cause α} {next : α → Except Cause β} (h : Reads doc reader l a)
    (hnext : Reads doc (next a) l' b) : Reads doc (reader >>= next) (l ++ l') b := by
  unfold Reads at *
  rw [h, firstFault_append]
  cases hfault : firstFault doc l with
  | none => exact hnext
  | some cause => rfl

/-- What only puts together what was read cannot fail. -/
theorem map {reader : Except Cause α} (h : Reads doc reader l a) (f : α → β) :
    Reads doc (reader >>= fun a => Pure.pure (f a)) l (f a) := by
  have hbind : Reads doc (reader >>= fun a => Pure.pure (f a)) (l ++ []) (f a) :=
    h.bind (pure (f a))
  rwa [List.append_nil] at hbind

/-- A place that is looked at before all others. -/
theorem cons {reader : Except Cause α} {p : Place} (hfault : ¬ p.IsSound doc →
    reader = .error (p.fault doc)) (hsound : p.IsSound doc → Reads doc reader l a) :
    Reads doc reader (p :: l) a := by
  by_cases h : p.IsSound doc
  · unfold Reads
    rw [firstFault_cons_of_sound h]
    exact hsound h
  · unfold Reads
    rw [firstFault_cons_of_not_sound h]
    exact hfault h

end Reads
end Rules

def toggleOf : Value → Option Bool
  | .bool b => some b
  | _ => none

def countOf : Value → Option Nat
  | .int n => some n.toNat
  | _ => none

def resourcesOf : Value → Option Resources
  | .null => none
  | v => some ⟨v.valueAt ["limits"], v.valueAt ["requests"]⟩

def pullSecretsOf (v : Value) : Option (List Value) :=
  match v.opened with
  | .list items => some (items.map (Value.valueAt ["name"]))
  | _ => none

def workloadAt (doc : Value) (path : List String) : Workload where
  replicas := (countOf (doc.valueAt (path ++ ["replicas"]))).getD 1
  resources := resourcesOf (doc.valueAt (path ++ ["resources"]))
  affinity := doc.valueAt (path ++ ["affinity"])
  tolerations := doc.valueAt (path ++ ["tolerations"])

def zyncAt (doc : Value) : ZyncSpec where
  image := doc.valueAt ["spec", "zync", "image"]
  postgresqlImage := doc.valueAt ["spec", "zync", "postgreSQLImage"]
  app := workloadAt doc ["spec", "zync", "appSpec"]
  que := workloadAt doc ["spec", "zync", "queSpec"]
  databaseResources := resourcesOf (doc.valueAt ["spec", "zync", "databaseResources"])
  databaseAffinity := doc.valueAt ["spec", "zync", "databaseAffinity"]
  databaseTolerations := doc.valueAt ["spec", "zync", "databaseTolerations"]

def apicastAt (doc : Value) : ApicastSpec where
  image := doc.valueAt ["spec", "apicast", "image"]
  managementApi := orElse (.str "status") (doc.valueAt ["spec", "apicast", "apicastManagementAPI"])
  opensslVerify := (toggleOf (doc.valueAt ["spec", "apicast", "openSSLVerify"])).getD false
  responseCodes := (toggleOf (doc.valueAt ["spec", "apicast", "responseCodes"])).getD true
  staging := workloadAt doc ["spec", "apicast", "stagingSpec"]
  production := workloadAt doc ["spec", "apicast", "productionSpec"]

def specAt (doc : Value) : ManagerSpec where
  appLabel := orElse (.str defaultAppLabel) (doc.valueAt ["spec", "appLabel"])
  resourceRequirementsEnabled :=
    (toggleOf (doc.valueAt ["spec", "resourceRequirementsEnabled"])).getD true
  pullSecrets := pullSecretsOf (doc.valueAt ["spec", "imagePullSecrets"])
  zyncExternalDatabase :=
    (toggleOf (doc.valueAt ["spec", "externalComponents", "zync", "database"])).getD false
  zync := zyncAt doc
  apicast := apicastAt doc

/-- The deployment that a document describes, wherever it is sound. -/
def managerAt (doc : Value) : Manager where
  name := doc.valueAt ["metadata", "name"]
  namespaceName :=
    if (doc.valueAt ["metadata", "namespace"]).isTruthy then doc.valueAt ["metadata", "namespace"]
    else .str ""
  spec := specAt doc

section Readers

variable (doc : Value) {path : List String} {name : String}

theorem section?_eq (name : String) (v : Value) : section? name v =
    if isSection v then .ok v.entries else .error (.notMapping name v) := by
  unfold section? isSection Value.entries
  generalize v.opened = collection
  cases collection <;> rfl

theorem section?_reads (name : String) (path : List String)
    (hname : name = ".".intercalate path) :
    Reads doc (section? name (doc.valueAt path)) [⟨path, .mapping⟩] (doc.valueAt path).entries := by
  subst hname
  rw [section?_eq]
  exact .cons (fun h => if_neg h) (fun h => if_pos h)

theorem toggle?_reads (name : String) (path : List String)
    (hname : name = ".".intercalate path) :
    Reads doc (toggle? name (doc.valueAt path)) [⟨path, .toggle⟩]
      (toggleOf (doc.valueAt path)) := by
  subst hname
  generalize hv : doc.valueAt path = v
  refine .cons ?_ ?_
  · intro h
    simp only [Place.IsSound, Shape.accepts, hv] at h
    simp only [Place.fault, Place.name, Place.culprit, hv]
    cases v with
    | null | bool b => exact absurd rfl h
    | _ => rfl
  · intro h
    simp only [Place.IsSound, Shape.accepts, hv] at h
    cases v with
    | null | bool b => rfl
    | _ => cases h

theorem replicas?_reads (name : String) (path : List String)
    (hname : name = ".".intercalate path) :
    Reads doc (replicas? name (doc.valueAt path)) [⟨path, .count⟩]
      (countOf (doc.valueAt path)) := by
  subst hname
  generalize hv : doc.valueAt path = v
  refine .cons ?_ ?_
  · intro h
    simp only [Place.IsSound, Shape.accepts, hv] at h
    simp only [Place.fault, Place.name, Place.culprit, hv]
    cases v with
    | null => exact absurd rfl h
    | int n => exact if_pos (by simpa using h)
    | _ => rfl
  · intro h
    simp only [Place.IsSound, Shape.accepts, hv] at h
    cases v with
    | null => rfl
    | int n => exact if_neg (by simpa using h)
    | _ => cases h

theorem resources?_reads (name : String) (path : List String)
    (hname : name = ".".intercalate path) :
    Reads doc (resources? name (doc.valueAt path)) [⟨path, .mapping⟩]
      (resourcesOf (doc.valueAt path)) := by
  have hread := (section?_reads doc name path hname).map fun entries =>
    some (⟨Value.get entries "limits", Value.get entries "requests"⟩ : Resources)
  generalize hv : doc.valueAt path = v at hread
  cases v with
  | null =>
    refine .cons (fun h => absurd ?_ h) (fun _ => rfl)
    simp only [Place.IsSound, Shape.accepts, hv]
    rfl
  | _ => exact hread

private theorem name_snoc (hpath : path ≠ []) (hname : name = ".".intercalate path)
    (key : String) : name ++ ("." ++ key) = ".".intercalate (path ++ [key]) := by
  subst hname
  induction path with
  | nil => exact absurd rfl hpath
  | cons first path ih =>
    cases path with
    | nil =>
      rw [List.singleton_append, String.intercalate_cons_cons, String.intercalate_singleton,
        String.intercalate_singleton, String.append_assoc]
    | cons second path =>
      rw [String.intercalate_cons_cons, String.append_assoc, ih (by simp)]
      simp only [List.cons_append, String.intercalate_cons_cons]

theorem workload_reads (name : String) (path : List String) (hpath : path ≠ [])
    (hname : name = ".".intercalate path) :
    Reads doc (workload name (doc.valueAt path)) (workloadPlaces path) (workloadAt doc path) := by
  have hreplicas := replicas?_reads doc _ _ (name_snoc hpath hname "replicas")
  have hresources := resources?_reads doc _ _ (name_snoc hpath hname "resources")
  unfold workload workloadAt
  simp only [Value.valueAt_snoc] at hreplicas hresources ⊢
  exact (section?_reads doc name path hname).bind (hreplicas.bind (hresources.map _))

theorem pullSecretNames_eq (items : List Value) :
    pullSecretNames items = match items.find? (!isSection ·) with
      | none => .ok (items.map (Value.valueAt ["name"]))
      | some v => .error (.notMapping "spec.imagePullSecrets[]" v) := by
  induction items with
  | nil => rfl
  | cons item items ih =>
    rw [pullSecretNames, section?_eq, ih]
    by_cases h : isSection item
    · rw [if_pos h, List.find?_cons_of_neg (by rw [h]; decide)]
      cases items.find? (!isSection ·) <;> rfl
    · rw [if_neg h, List.find?_cons_of_pos (by simpa using h)]
      rfl

theorem pullSecrets?_reads :
    Reads doc (pullSecrets? (doc.valueAt ["spec", "imagePullSecrets"]))
      [⟨["spec", "imagePullSecrets"], .list⟩, ⟨["spec", "imagePullSecrets"], .items⟩]
      (pullSecretsOf (doc.valueAt ["spec", "imagePullSecrets"])) := by
  unfold pullSecrets? pullSecretsOf
  cases hv : (doc.valueAt ["spec", "imagePullSecrets"]).opened with
  | null =>
    have hlist : Place.IsSound doc ⟨["spec", "imagePullSecrets"], .list⟩ := by
      simp [Place.IsSound, Shape.accepts, hv]
    have hitems : Place.IsSound doc ⟨["spec", "imagePullSecrets"], .items⟩ := by
      simp [Place.IsSound, Shape.accepts, Value.items, hv]
    exact .cons (absurd hlist) fun _ => .cons (absurd hitems) fun _ => rfl
  | list items =>
    have hlist : Place.IsSound doc ⟨["spec", "imagePullSecrets"], .list⟩ := by
      simp [Place.IsSound, Shape.accepts, hv]
    have hitems : Place.IsSound doc ⟨["spec", "imagePullSecrets"], .items⟩ ↔
        items.find? (!isSection ·) = none := by
      simp [Place.IsSound, Shape.accepts, Value.items, hv]
    simp only [pullSecretNames_eq]
    cases hfind : items.find? (!isSection ·) with
    | none => exact .cons (absurd hlist) fun _ => .cons (absurd (hitems.mpr hfind)) fun _ => rfl
    | some v =>
      have hfault : Place.fault doc ⟨["spec", "imagePullSecrets"], .items⟩ =
          .notMapping "spec.imagePullSecrets[]" v := by
        simp only [Place.fault, Place.culprit, Value.items, hv, hfind]
        rfl
      have hunsound : ¬ Place.IsSound doc ⟨["spec", "imagePullSecrets"], .items⟩ := by
        rw [hitems, hfind]
        exact Option.some_ne_none v
      refine .cons (absurd hlist) fun _ => .cons (fun _ => ?_) fun h => absurd h hunsound
      rw [hfault]
      rfl
  | _ => exact .cons (fun _ => rfl) fun h => by simp [Place.IsSound, Shape.accepts, hv] at h

theorem zync_reads :
    Reads doc (zync (doc.valueAt ["spec", "zync"])) zyncPlaces (zyncAt doc) := by
  have happ := workload_reads doc "spec.zync.appSpec" ["spec", "zync", "appSpec"] (by decide) rfl
  have hque := workload_reads doc "spec.zync.queSpec" ["spec", "zync", "queSpec"] (by decide) rfl
  have hdatabase := resources?_reads doc "spec.zync.databaseResources"
    ["spec", "zync", "databaseResources"] rfl
  exact (section?_reads doc "spec.zync" ["spec", "zync"] rfl).bind
    (happ.bind (hque.bind (hdatabase.map _)))

theorem apicast_reads :
    Reads doc (apicast (doc.valueAt ["spec", "apicast"])) apicastPlaces (apicastAt doc) := by
  have hverify := toggle?_reads doc "spec.apicast.openSSLVerify"
    ["spec", "apicast", "openSSLVerify"] rfl
  have hcodes := toggle?_reads doc "spec.apicast.responseCodes"
    ["spec", "apicast", "responseCodes"] rfl
  have hstaging := workload_reads doc "spec.apicast.stagingSpec"
    ["spec", "apicast", "stagingSpec"] (by decide) rfl
  have hproduction := workload_reads doc "spec.apicast.productionSpec"
    ["spec", "apicast", "productionSpec"] (by decide) rfl
  exact (section?_reads doc "spec.apicast" ["spec", "apicast"] rfl).bind
    (hverify.bind (hcodes.bind (hstaging.bind (hproduction.map _))))

theorem spec_reads : Reads doc (spec (doc.valueAt ["spec"])) specPlaces (specAt doc) := by
  have hexternal := section?_reads doc "spec.externalComponents" ["spec", "externalComponents"] rfl
  have hexternalZync := section?_reads doc "spec.externalComponents.zync"
    ["spec", "externalComponents", "zync"] rfl
  have henabled := toggle?_reads doc "spec.resourceRequirementsEnabled"
    ["spec", "resourceRequirementsEnabled"] rfl
  have hdatabase := toggle?_reads doc "spec.externalComponents.zync.database"
    ["spec", "externalComponents", "zync", "database"] rfl
  exact (section?_reads doc "spec" ["spec"] rfl).bind ((pullSecrets?_reads doc).bind
    (hexternal.bind (hexternalZync.bind (henabled.bind (hdatabase.bind
      ((zync_reads doc).bind ((apicast_reads doc).map _)))))))

/-- A document is read by walking over all its places. -/
theorem ofEntries_reads (entries : List (Value × Value)) :
    Reads (.map entries) (Manager.ofEntries entries) places (managerAt (.map entries)) := by
  have hmetadata := section?_reads (.map entries) "metadata" ["metadata"] rfl
  refine hmetadata.bind (.cons ?_ ?_)
  · intro h
    exact if_neg h
  · intro h
    have hspec := (spec_reads (.map entries)).map fun spec =>
      ({ managerAt (.map entries) with spec } : Manager)
    refine Eq.trans (if_pos h) hspec

end Readers
end DeployOptions.Document
