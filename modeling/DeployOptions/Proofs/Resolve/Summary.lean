import DeployOptions.Cluster
import DeployOptions.Proofs.Resolve.Handled
import DeployOptions.Proofs.Resolve.Precedence
import DeployOptions.Proofs.Run.Fails
import DeployOptions.Proofs.Value.Order

/-! Which options have a summary. A document is accepted with any quantities, pull secret names,
images and interface names in it, but not all of these can be listed or are texts. -/
namespace DeployOptions
open Document

/-- What is made after a step whose outcome does not matter for it. -/
private theorem exists_bind_ok_iff {α β : Type} {e : Except Failure α}
    {next : α → Except Failure β} {Q : Prop} (h : ∀ a, (∃ b, next a = .ok b) ↔ Q) :
    (∃ b, e >>= next = .ok b) ↔ (∃ a, e = .ok a) ∧ Q := by
  cases e with
  | error f => exact iff_of_false (by rintro ⟨_, hb⟩; cases hb) (by rintro ⟨⟨_, ha⟩, -⟩; cases ha)
  | ok a => exact (h a).trans (and_iff_right ⟨a, rfl⟩).symm

/-- A value that can be listed as quantities: there is nothing in it, or it is a mapping whose
entries have an order and can be written out. -/
def Value.IsListable (v : Value) : Prop :=
  v.isTruthy = true → ∃ entries, v.opened = .map entries ∧ Value.HaveOrder entries ∧
    (Value.map entries).isWritable = true

namespace Resources

variable {r : Resources}

def IsListable (r : Resources) : Prop := r.limits.IsListable ∧ r.requests.IsListable

private theorem exists_describeKind_iff {kind : String} {values : Value} :
    (∃ parts, describeKind kind values = .ok parts) ↔ values.IsListable := by
  unfold describeKind Value.IsListable
  by_cases htruthy : values.isTruthy = true
  · simp only [htruthy, if_true, true_imp_iff]
    cases values.opened with
    | map entries =>
      simp only [Value.map.injEq, exists_eq_left', ← Value.exists_sortedByKey?_iff]
      cases hsorted : Value.sortedByKey? entries with
      | none => simp
      | some sorted =>
        rw [← Value.isWritable_perm (Value.sortedByKey?_perm hsorted)]
        by_cases hwritable : (Value.map sorted).isWritable = true <;> simp [hwritable]
    | _ => simp
  · simp [htruthy]

theorem exists_describe_iff : (∃ text, r.describe = .ok text) ↔ r.IsListable := by
  unfold describe
  rw [exists_bind_ok_iff (Q := r.requests.IsListable), exists_describeKind_iff]
  · rfl
  · intro limits
    rw [exists_bind_ok_iff (Q := True), exists_describeKind_iff, and_true]
    intro requests
    refine iff_true_intro ?_
    split <;> exact ⟨_, rfl⟩

end Resources

private theorem exists_joinedNames_iff {names : List Value} :
    (∃ texts, joinedNames names = .ok texts) ↔ ∀ n ∈ names, n.IsText := by
  induction names with
  | nil => simp [joinedNames]
  | cons n names ih =>
    rw [List.forall_mem_cons, ← ih]
    cases n with
    | str s =>
      cases hnames : joinedNames names <;> simp [joinedNames, Value.IsText, Except.map, hnames]
    | _ => simp [joinedNames, Value.IsText]

private theorem exists_describeCounts_iff {counts : List (String × Value)} :
    (∃ text, describeCounts counts = .ok text) ↔ ∀ e ∈ counts, e.2.isWritable = true := by
  unfold describeCounts
  rw [← List.all_eq_true]
  split
  · next h => exact iff_of_true ⟨_, rfl⟩ h
  · next h => exact iff_of_false (by simp) h

/-- The summary of zync writes out its counts, and lists its resources and its pull secrets. -/
theorem ZyncOptions.exists_summary_iff {o : ZyncOptions} {resources que database : Resources}
    {names : List Value} (hresources : o.resources = .proper resources)
    (hque : o.queResources = .proper que) (hdatabase : o.databaseResources = .proper database)
    (hnames : o.pullSecrets = .proper names) :
    (∃ summary, o.summary = .ok summary) ↔
      (∀ v ∈ [o.replicas, o.queReplicas], v.isWritable = true) ∧
        (∀ r ∈ [resources, que, database], r.IsListable) ∧ ∀ n ∈ names, n.IsText := by
  have hpullSecrets : (∃ text, describeNames (.proper names) = .ok text) ↔
      ∀ n ∈ names, n.IsText := by
    rw [← exists_joinedNames_iff, describeNames]
    cases joinedNames names <;> simp [Except.map]
  unfold summary
  rw [hresources, hque, hdatabase, hnames]
  -- each step can fail for itself alone
  refine (exists_bind_ok_iff fun _ => exists_bind_ok_iff fun _ => exists_bind_ok_iff fun _ =>
    exists_bind_ok_iff fun _ => exists_bind_ok_iff fun _ => iff_true_intro ⟨_, rfl⟩).trans ?_
  rw [exists_describeCounts_iff, hpullSecrets]
  simp only [Resources.describeHeld, Resources.exists_describe_iff]
  simp [and_assoc]

/-- The summary of the gateways writes out their counts and lists their resources. -/
theorem ApicastOptions.exists_summary_iff {o : ApicastOptions} {staging production : Resources}
    (hstaging : o.stagingResources = .proper staging)
    (hproduction : o.productionResources = .proper production) :
    (∃ summary, o.summary = .ok summary) ↔
      (∀ v ∈ [o.stagingReplicas, o.productionReplicas], v.isWritable = true) ∧
        ∀ r ∈ [staging, production], r.IsListable := by
  unfold summary
  rw [hstaging, hproduction]
  refine (exists_bind_ok_iff fun _ => exists_bind_ok_iff fun _ => exists_bind_ok_iff fun _ =>
    iff_true_intro ⟨_, rfl⟩).trans ?_
  rw [exists_describeCounts_iff]
  simp only [Resources.describeHeld, Resources.exists_describe_iff]
  simp

inductive Failure.IsUnlisted : Failure → Prop
  | noEntries : IsUnlisted .missingOperation
  | noOrder : IsUnlisted .unsuitableValue
  | tooLong : IsUnlisted .unwritable

section Failures
open FailsOnly Failure.IsUnlisted

private theorem describeCounts_fails (counts : List (String × Value)) :
    FailsOnly Failure.IsUnlisted (describeCounts counts) := by
  unfold describeCounts
  split
  · exact of_ok _
  · exact of_error tooLong

private theorem describeKind_fails (kind : String) (v : Value) :
    FailsOnly Failure.IsUnlisted (Resources.describeKind kind v) := by
  unfold Resources.describeKind
  split
  · split
    · split
      · split
        · exact of_ok _
        · exact of_error tooLong
      · exact of_error noOrder
    · exact of_error noEntries
  · exact of_ok _

private theorem describeHeld_fails (r : Held Resources) :
    FailsOnly Failure.IsUnlisted (Resources.describeHeld r) := by
  cases r with
  | unset => exact of_ok _
  | stray v => exact of_error noEntries
  | proper r =>
    refine (describeKind_fails "limits" r.limits).bind fun _ =>
      (describeKind_fails "requests" r.requests).bind fun _ => ?_
    split <;> exact of_ok _

private theorem joinedNames_fails (names : List Value) :
    FailsOnly Failure.IsUnlisted (joinedNames names) := by
  induction names with
  | nil => exact of_ok _
  | cons n names ih =>
    cases n with
    | str s => exact ih.map _
    | _ => exact of_error noOrder

private theorem describeNames_fails (names : Held (List Value)) :
    FailsOnly Failure.IsUnlisted (describeNames names) := by
  cases names with
  | unset => exact of_error noOrder
  | proper names => exact (joinedNames_fails names).map _
  | stray v =>
    have hempty (b : Bool) : FailsOnly Failure.IsUnlisted
        (if b then .error .missingOperation else .ok "" : Except Failure String) := by
      split
      · exact of_error noEntries
      · exact of_ok _
    cases v with
    | str _ | map _ | set _ | bytes _ => exact hempty _
    | _ => exact of_error noOrder

/-- The summary of resolved options fails for nothing but what cannot be listed. -/
theorem Record.summary_fails {r : Record} (hworkloads : ∀ o, r ≠ .workloads o)
    (hother : r ≠ .other) : FailsOnly Failure.IsUnlisted r.summary := by
  cases r with
  | zync o =>
    exact (describeCounts_fails _).bind fun _ => (describeHeld_fails _).bind fun _ =>
      (describeHeld_fails _).bind fun _ => (describeHeld_fails _).bind fun _ =>
        (describeNames_fails _).bind fun _ => of_ok _
  | apicast o =>
    exact (describeCounts_fails _).bind fun _ => (describeHeld_fails _).bind fun _ =>
      (describeHeld_fails _).bind fun _ => of_ok _
  | images o => exact of_ok _
  | workloads o => exact absurd rfl (hworkloads o)
  | other => exact absurd rfl hother

end Failures

def Summary.IsText (summary : Summary) : Prop := ∀ e ∈ summary, e.2.IsText

namespace Record

/-- The values that the summary of a record shows as they are. -/
def copied : Record → List Value
  | .zync o => [o.namespaceName, o.imageTag]
  | .apicast o =>
    [o.namespaceName, o.imageTag, o.managementApi, o.opensslVerify, o.responseCodes]
  | .images o => [o.apicast, o.zync, o.zyncDatabase]
  | .workloads _ | .other => []

def labels : Record → List String
  | .zync _ => ["Namespace", "Image tag", "Replicas", "Zync resources", "Que resources",
      "Database resources", "Metrics", "Pull secrets", "Secret fields"]
  | .apicast _ => ["Namespace", "Image tag", "Management API", "OpenSSL verify", "Response codes",
      "Replicas", "Staging resources", "Production resources"]
  | .images _ => ["APIcast", "Zync", "Zync database"]
  | .workloads _ | .other => []

/-- A summary always has the same labels, and its values are texts, but for those that are shown as
they are. -/
theorem parts_of_summary {r : Record} {summary : Summary} (h : r.summary = .ok summary) :
    summary.map Prod.fst = r.labels ∧ ∀ P : Value → Prop, (∀ s, P (.str s)) →
      ((∀ e ∈ summary, P e.2) ↔ ∀ v ∈ r.copied, P v) := by
  cases r with
  | zync o =>
    obtain ⟨replicas, -, h⟩ := exists_of_bind_ok h
    obtain ⟨resources, -, h⟩ := exists_of_bind_ok h
    obtain ⟨queResources, -, h⟩ := exists_of_bind_ok h
    obtain ⟨databaseResources, -, h⟩ := exists_of_bind_ok h
    obtain ⟨pullSecrets, -, h⟩ := exists_of_bind_ok h
    cases h
    exact ⟨rfl, fun P htext => by simp [copied, htext]⟩
  | apicast o =>
    obtain ⟨replicas, -, h⟩ := exists_of_bind_ok h
    obtain ⟨staging, -, h⟩ := exists_of_bind_ok h
    obtain ⟨production, -, h⟩ := exists_of_bind_ok h
    cases h
    exact ⟨rfl, fun P htext => by simp [copied, htext]⟩
  | images o =>
    cases h
    exact ⟨rfl, fun P htext => by simp [copied, ImageOptions.summary]⟩
  | workloads _ | other => cases h

end Record

namespace Document

inductive Use
  | count
  | quantities
  | names
  | text
deriving DecidableEq, Repr

/-- Whether a summary can make this of a value. Null is as good as a default. -/
def Use.Fits (v : Value) : Use → Prop
  | .count => v.isWritable = true
  | .quantities => v.IsListable
  | .names => ∀ item ∈ v.items, (item.valueAt ["name"]).IsText
  | .text => v = .null ∨ v.IsText

def resourceUses (path : List String) : List (List String × Use) :=
  [(path ++ ["limits"], .quantities), (path ++ ["requests"], .quantities)]

variable {doc : Value}

/-- The default resources can be listed, so that only those of the document count. -/
private theorem isListable_requirementsFor {path : List String} {default : Resources}
    (hdefault : default.IsListable) :
    (requirementsFor doc path default).IsListable ↔
      ∀ u ∈ resourceUses path, u.2.Fits (doc.valueAt u.1) := by
  have hnull : Value.null.IsListable := nofun
  have hentry (key : String) : Value.null.valueAt [key] = .null := rfl
  simp only [resourceUses, List.forall_mem_cons, Use.Fits, Value.valueAt_append]
  unfold requirementsFor
  cases doc.valueAt path with
  | null =>
    simp only [hentry]
    refine iff_of_true ?_ ⟨hnull, hnull, by simp⟩
    split
    · exact ⟨hnull, hnull⟩
    · exact hdefault
    · next h _ => exact absurd rfl h
  | _ => simp [Resources.IsListable]

private theorem isWritable_count (path : List String) :
    (ownOr doc path (.int 1)).isWritable = true ↔ Use.count.Fits (doc.valueAt path) := by
  unfold ownOr
  cases doc.valueAt path with
  | null =>
    have hone {digits : Nat} (h : digits ≠ 0) : (1 : Int).natAbs < Nat.pow 10 digits :=
      Nat.one_lt_pow h (by decide)
    exact iff_of_true (decide_eq_true (hone (by decide))) rfl
  | _ => rfl

/-- Nothing is read as the default pull secret, which has a name. -/
private theorem pullSecretsFor_texts
    (hlist : Place.IsSound doc ⟨["spec", "imagePullSecrets"], .list⟩) :
    (∀ n ∈ pullSecretsFor doc, n.IsText) ↔
      Use.names.Fits (doc.valueAt ["spec", "imagePullSecrets"]) := by
  simp only [Place.IsSound, Shape.accepts] at hlist
  unfold pullSecretsFor Use.Fits Value.items
  cases hitems : (doc.valueAt ["spec", "imagePullSecrets"]).opened with
  | list items => simp
  | null => simp [Value.IsText]
  | _ =>
    rw [hitems] at hlist
    cases hlist

end Document

namespace Resolve
open Run

/-- The places of a document that the summary of a component shows, and what it makes of each. -/
def Target.uses : Target → List (List String × Use)
  | .zync =>
    [(["spec", "zync", "appSpec", "replicas"], .count),
        (["spec", "zync", "queSpec", "replicas"], .count)] ++
      resourceUses ["spec", "zync", "appSpec", "resources"] ++
      resourceUses ["spec", "zync", "queSpec", "resources"] ++
      resourceUses ["spec", "zync", "databaseResources"] ++ [(["spec", "imagePullSecrets"], .names)]
  | .apicast =>
    [(["spec", "apicast", "stagingSpec", "replicas"], .count),
        (["spec", "apicast", "productionSpec", "replicas"], .count)] ++
      resourceUses ["spec", "apicast", "stagingSpec", "resources"] ++
      resourceUses ["spec", "apicast", "productionSpec", "resources"] ++
      [(["spec", "apicast", "apicastManagementAPI"], .text)]
  | .images =>
    [(["spec", "apicast", "image"], .text), (["spec", "zync", "image"], .text),
      (["spec", "zync", "postgreSQLImage"], .text)]

/-- A record that the resolution of a component can return, whatever it finds outside. -/
inductive Yields (m : Manager) (k : Value) : Target → Record → Prop
  | zync {w : World} {o : ZyncOptions} :
    (exec (zync m k) w).1 = .ok o → Yields m k .zync (.zync o)
  | apicast {o : ApicastOptions} : apicast m k = .ok o → Yields m k .apicast (.apicast o)
  | images {o : ImageOptions} : images m = .ok o → Yields m k .images (.images o)

variable {doc k : Value} {t : Target} {r : Record}

private theorem isListable_quantities (limitCpu limitMemory requestCpu requestMemory : String) :
    (⟨quantities limitCpu limitMemory, quantities requestCpu requestMemory⟩ :
      Resources).IsListable := by
  have hpair (cpu memory : String) : (quantities cpu memory).IsListable :=
    fun _ => ⟨_, rfl, .inr ⟨.text, by simp [Value.scale?]⟩, rfl⟩
  exact ⟨hpair _ _, hpair _ _⟩

/-- A record has a summary exactly where everything in it can be listed that was taken over from the
document. -/
theorem Yields.exists_summary_iff (hsound : ∀ p ∈ places, p.IsSound doc)
    (h : Yields (managerAt doc) k t r) :
    (∃ summary, r.summary = .ok summary) ↔
      ∀ u ∈ t.uses, u.2 ≠ .text → u.2.Fits (doc.valueAt u.1) := by
  cases h with
  | zync ho =>
    rw [exec_zync] at ho
    obtain ⟨_, -, -, hchecked⟩ := exists_resolved ho
    have hfollows := zync_follows hsound hchecked
    rw [Record.summary, ZyncOptions.exists_summary_iff hfollows.resources hfollows.queResources
      hfollows.databaseResources hfollows.pullSecrets, hfollows.replicas, hfollows.queReplicas]
    simp only [List.forall_mem_cons, isWritable_count,
      isListable_requirementsFor (isListable_quantities _ _ _ _),
      pullSecretsFor_texts (hsound _ (by decide))]
    simp [Target.uses, resourceUses, and_assoc]
  | apicast ho =>
    have hfollows := apicast_follows hsound ho
    rw [Record.summary, ApicastOptions.exists_summary_iff hfollows.stagingResources
      hfollows.productionResources, hfollows.stagingReplicas, hfollows.productionReplicas]
    simp only [List.forall_mem_cons, isWritable_count,
      isListable_requirementsFor (isListable_quantities _ _ _ _)]
    simp [Target.uses, resourceUses, and_assoc]
  | images _ => exact iff_of_true ⟨_, rfl⟩ (by simp [Target.uses])

private theorem orElse_iff {P : Value → Prop} (htext : ∀ s, P (.str s)) (default : String)
    (v : Value) : P (orElse (.str default) v) ↔ v = .null ∨ P v := by
  cases v <;> simp [orElse, htext]

/-- What a summary shows as it is are texts of the program, the namespace, and texts of the
document. -/
theorem Yields.forall_copied_iff (h : Yields (managerAt doc) k t r) {P : Value → Prop}
    (htext : ∀ s, P (.str s)) :
    (∀ v ∈ r.copied, P v) ↔ (t ≠ .images → P k) ∧
      ∀ u ∈ t.uses, u.2 = .text → doc.valueAt u.1 = .null ∨ P (doc.valueAt u.1) := by
  cases h with
  | zync ho =>
    rw [exec_zync] at ho
    obtain ⟨_, -, -, hchecked⟩ := exists_resolved ho
    have hmade := zyncOptions_of_checked hchecked
    obtain ⟨images, -, hmade⟩ := exists_of_bind_ok hmade
    obtain ⟨zyncPod, -, hmade⟩ := exists_of_bind_ok hmade
    obtain ⟨quePod, -, hmade⟩ := exists_of_bind_ok hmade
    obtain ⟨databasePod, -, hmade⟩ := exists_of_bind_ok hmade
    rw [← Except.ok.inj hmade]
    simp [Record.copied, Target.uses, resourceUses, htext]
  | apicast ho =>
    have hmade := apicastOptions_of_checked ho
    obtain ⟨images, -, hmade⟩ := exists_of_bind_ok hmade
    obtain ⟨stagingPod, -, hmade⟩ := exists_of_bind_ok hmade
    obtain ⟨productionPod, -, hmade⟩ := exists_of_bind_ok hmade
    have hmanagement : (managerAt doc).spec.apicast.managementApi =
      orElse (.str "status") (doc.valueAt ["spec", "apicast", "apicastManagementAPI"]) := rfl
    rw [← Except.ok.inj hmade]
    simp [Record.copied, Target.uses, resourceUses, htext, hmanagement, orElse_iff htext]
  | images ho =>
    obtain ⟨-, rfl⟩ := images_eq_ok_iff.mp ho
    simp [Record.copied, Target.uses, imageOptions, orElse_iff htext, managerAt, specAt, apicastAt,
      zyncAt]

/-- A record has a summary of texts exactly where all that it has taken over from the document can
be listed or is a text, and the namespace is one, if it is shown. -/
theorem Yields.exists_text_summary_iff (hsound : ∀ p ∈ places, p.IsSound doc)
    (h : Yields (managerAt doc) k t r) :
    (∃ summary, r.summary = .ok summary ∧ summary.IsText) ↔
      (∀ u ∈ t.uses, u.2.Fits (doc.valueAt u.1)) ∧ (t ≠ .images → k.IsText) := by
  have hlisted := h.exists_summary_iff hsound
  have htexts := h.forall_copied_iff (P := Value.IsText) fun s => ⟨s, rfl⟩
  have hcopied {summary : Summary} (hsummary : r.summary = .ok summary) :
      summary.IsText ↔ ∀ v ∈ r.copied, v.IsText :=
    (Record.parts_of_summary hsummary).2 Value.IsText fun s => ⟨s, rfl⟩
  constructor
  · rintro ⟨summary, hsummary, htext⟩
    obtain ⟨hk, hshown⟩ := htexts.mp ((hcopied hsummary).mp htext)
    refine ⟨fun u hu => ?_, hk⟩
    by_cases hkind : u.2 = .text
    · rw [hkind]
      exact hshown u hu hkind
    · exact hlisted.mp ⟨summary, hsummary⟩ u hu hkind
  · rintro ⟨hfits, hk⟩
    obtain ⟨summary, hsummary⟩ := hlisted.mpr fun u hu _ => hfits u hu
    refine ⟨summary, hsummary, (hcopied hsummary).mpr (htexts.mpr ⟨hk, fun u hu hkind => ?_⟩)⟩
    have hfit := hfits u hu
    rwa [hkind] at hfit

/-- Nothing is missing from a summary, whatever it shows. -/
theorem Yields.ne_null_of_summary (h : Yields (managerAt doc) k t r) (hk : k ≠ .null)
    {summary : Summary} (hsummary : r.summary = .ok summary) : ∀ e ∈ summary, e.2 ≠ .null := by
  have htext (s : String) : Value.str s ≠ .null := by nofun
  refine ((Record.parts_of_summary hsummary).2 (· ≠ .null) htext).mpr ?_
  exact (h.forall_copied_iff htext).mpr ⟨fun _ => hk, fun u _ _ => Classical.em _⟩

end Resolve
end DeployOptions
