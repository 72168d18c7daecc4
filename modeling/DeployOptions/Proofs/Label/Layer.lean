import DeployOptions.Proofs.Alert.Binding
import DeployOptions.Proofs.Label

/-! Layers of labels can be put together in any grouping, and only the last one that has a label
matters. From this, what pod templates and rule bundles are labelled with. -/
namespace DeployOptions

namespace Assoc

theorem isMap_nil {κ α : Type} : IsMap ([] : List (κ × α)) := List.nodup_nil

variable {κ α : Type} [DecidableEq κ] {k j : κ} {u v : α} {m : List (κ × α)}

theorem get?_of_mem {e : κ × α} (h : IsMap m) (he : e ∈ m) : get? e.1 m = some e.2 := by
  induction m with
  | nil => cases he
  | cons f m ih =>
    obtain ⟨hfirst, hrest⟩ := List.nodup_cons.mp h
    rcases List.mem_cons.mp he with rfl | hmem
    · simp [get?]
    · have hne : f.1 ≠ e.1 := fun hf => hfirst (hf ▸ List.mem_map_of_mem hmem)
      rw [get?, if_neg hne, ih hrest hmem]

/-- What is stored already is not stored again. -/
theorem put_eq_self (h : get? k m = some v) : put k v m = m := by
  induction m with
  | nil => cases h
  | cons e m ih =>
    by_cases he : e.1 = k
    · simp only [get?, he, if_true, Option.some.injEq] at h
      simp [put, ← he, ← h]
    · simp only [get?, he, if_false] at h
      simp [put, he, ih h]

theorem put_put_self : put k v (put k u m) = put k v m := by
  induction m with
  | nil => simp [put]
  | cons e m ih => by_cases he : e.1 = k <;> simp [put, he, ih]

/-- A key that is there keeps its place, so that it does not matter whether it is stored before or
after another one. -/
theorem put_put_comm (hne : k ≠ j) (hk : k ∈ m.map Prod.fst) :
    put k v (put j u m) = put j u (put k v m) := by
  induction m with
  | nil => cases hk
  | cons e m ih =>
    by_cases hek : e.1 = k
    · simp [put, hek, hne]
    · have hrest : k ∈ m.map Prod.fst :=
        (List.mem_cons.mp hk).resolve_left fun h => hek h.symm
      by_cases hej : e.1 = j
      · simp [put, hej, hne.symm]
      · simp [put, hek, hej, ih hrest]

/-- The same for a layer that does not have the key. -/
theorem put_update {layer : List (κ × α)} (hk : k ∈ m.map Prod.fst)
    (hlayer : k ∉ layer.map Prod.fst) : put k v (update m layer) = update (put k v m) layer := by
  induction layer generalizing m with
  | nil => rfl
  | cons e layer ih =>
    rw [List.map_cons, List.mem_cons, not_or] at hlayer
    calc put k v (update (put e.1 e.2 m) layer)
      _ = update (put k v (put e.1 e.2 m)) layer := ih (mem_keys_put.mpr (.inr hk)) hlayer.2
      _ = update (put e.1 e.2 (put k v m)) layer := by rw [put_put_comm hlayer.1 hk]

/-- What is stored last in a layer is stored last of all. -/
theorem update_put {layer : List (κ × α)} (h : IsMap layer) :
    update m (put k v layer) = put k v (update m layer) := by
  induction layer generalizing m with
  | nil => rfl
  | cons e layer ih =>
    obtain ⟨hfirst, hrest⟩ := List.nodup_cons.mp h
    by_cases he : e.1 = k
    · subst he
      have hthere : e.1 ∈ (put e.1 e.2 m).map Prod.fst := mem_keys_put.mpr (.inl rfl)
      calc update m (put e.1 v (e :: layer))
        _ = update (put e.1 v m) layer := by rw [put, if_pos rfl]; rfl
        _ = update (put e.1 v (put e.1 e.2 m)) layer := by rw [put_put_self]
        _ = put e.1 v (update (put e.1 e.2 m) layer) := (put_update hthere hfirst).symm
    · rw [put, if_neg he]
      exact ih hrest

/-- Two layers can be put together before they are put over a third. -/
theorem update_update {a : List (κ × α)} (h : IsMap a) (b : List (κ × α)) :
    update m (update a b) = update (update m a) b := by
  induction b generalizing a with
  | nil => rfl
  | cons e b ih =>
    calc update m (update (put e.1 e.2 a) b)
      _ = update (update m (put e.1 e.2 a)) b := ih h.put
      _ = update (put e.1 e.2 (update m a)) b := by rw [update_put h]

/-- So can any number of layers. -/
theorem update_foldl {a : List (κ × α)} (h : IsMap a) (layers : List (List (κ × α))) :
    update m (layers.foldl update a) = layers.foldl update (update m a) := by
  induction layers generalizing a with
  | nil => rfl
  | cons layer layers ih =>
    rw [List.foldl_cons, List.foldl_cons, ih h.update, update_update h]

/-- A layer that is put over itself changes nothing. -/
theorem update_self (h : IsMap m) : update m m = m := by
  have hkept (layer : List (κ × α)) (hlayer : ∀ e ∈ layer, get? e.1 m = some e.2) :
      update m layer = m := by
    induction layer with
    | nil => rfl
    | cons e layer ih =>
      rw [List.forall_mem_cons] at hlayer
      calc update (put e.1 e.2 m) layer
        _ = update m layer := by rw [put_eq_self hlayer.1]
        _ = m := ih hlayer.2
  exact hkept m fun e he => get?_of_mem h he

end Assoc

namespace Labels
open Assoc

variable {k : String}

/-- The layers are searched from the last one on. -/
theorem get?_merge {layers : List Labels} (h : ∀ l ∈ layers, IsMap l) :
    get? k (merge layers) = layers.reverse.findSome? (get? k) := by
  induction layers using List.reverseRecOn with
  | nil => rfl
  | append_singleton layers last ih =>
    simp only [List.forall_mem_append, List.forall_mem_singleton] at h
    rw [get?_merge_snoc layers h.2, ih h.1, List.reverse_append, List.reverse_singleton,
      List.singleton_append, List.findSome?_cons]
    cases get? k last <;> rfl

/-- The value of a label is that of the last layer that has it. -/
theorem get?_merge_eq_some_iff {layers : List Labels} (h : ∀ l ∈ layers, IsMap l) {v : Value} :
    get? k (merge layers) = some v ↔ ∃ before l after, layers = before ++ l :: after ∧
      get? k l = some v ∧ ∀ l' ∈ after, get? k l' = none := by
  rw [get?_merge h, List.findSome?_eq_some_iff]
  constructor
  · rintro ⟨after, l, before, hlayers, hl, hafter⟩
    refine ⟨before.reverse, l, after.reverse, ?_, hl, fun l' hl' => hafter l' (by simpa using hl')⟩
    rw [← List.reverse_reverse layers, hlayers]
    simp
  · rintro ⟨before, l, after, rfl, hl, hafter⟩
    exact ⟨after.reverse, l, before.reverse, by simp, hl,
      fun l' hl' => hafter l' (by simpa using hl')⟩

theorem get?_merge_eq_none_iff {layers : List Labels} (h : ∀ l ∈ layers, IsMap l) :
    get? k (merge layers) = none ↔ ∀ l ∈ layers, get? k l = none := by
  rw [get?_merge h, List.findSome?_eq_none_iff]
  simp

theorem merge_append (a b : List Labels) : merge (a ++ b) = update (merge a) (merge b) := by
  rw [merge, List.foldl_append]
  exact (update_foldl isMap_nil b).symm

/-- A block of layers can be put together first. -/
theorem merge_block (before block after : List Labels) :
    merge (before ++ merge block :: after) = merge (before ++ block ++ after) := by
  have hblock : merge [merge block] = merge block := update_foldl isMap_nil block
  rw [← List.singleton_append, ← List.append_assoc, merge_append, merge_append before, hblock,
    ← merge_append, ← merge_append]

/-- The last layer once more changes nothing. -/
theorem merge_twice (layers : List Labels) {last : Labels} (h : IsMap last) :
    merge (layers ++ [last] ++ [last]) = merge (layers ++ [last]) := by
  rw [merge, List.foldl_append, merge, List.foldl_append]
  exact (update_update h last).symm.trans (congrArg (update _) (update_self h))

/-- The bundle of a component has the monitoring labels over the given ones. -/
theorem get?_bundle (c : Component) {labels : Labels} (h : IsMap labels) {a : String}
    {b : Bundle} (hb : c.bundle labels a = .ok b) :
    get? k b.labels = (get? k Bundle.monitoringLabels).or (get? k labels) := by
  have hmonitoring : IsMap Bundle.monitoringLabels := by simp [IsMap, Bundle.monitoringLabels]
  have hlabels : b.labels = merge [labels, Bundle.monitoringLabels] := by
    unfold Component.bundle at hb
    cases hrules : c.rules a with
    | error f =>
      rw [hrules] at hb
      cases hb
    | ok rules =>
      rw [hrules] at hb
      exact congrArg Bundle.labels (Except.ok.inj hb).symm
  rw [hlabels, ← get?_merge_singleton h]
  exact get?_merge_snoc [labels] hmonitoring

/-- The last layer that has a label decides it, and a label that no layer has is not there. A block
of layers can be put together first, an empty layer changes nothing, and nor does the last layer
once more. So the labels of a group go into a pod template as they are, but for the name of the
tier, which is always that of the component, and metering only adds what the group says nothing
about. And labels go into the bundle of any component as they are, but for the two of monitoring,
which have fixed values. -/
theorem last_layer_decides (layers : List Labels) (hlayers : ∀ l ∈ layers, IsMap l)
    (labels : Labels) (hlabels : IsMap labels) :
    (IsMap (merge layers) ∧
      (∀ k v, get? k (merge layers) = some v ↔ ∃ before l after, layers = before ++ l :: after ∧
        get? k l = some v ∧ ∀ l' ∈ after, get? k l' = none) ∧
      ∀ k, get? k (merge layers) = none ↔ ∀ l ∈ layers, get? k l = none) ∧
    ((∀ before block after, layers = before ++ block ++ after →
        merge (before ++ merge block :: after) = merge layers) ∧
      (∀ before after, layers = before ++ after →
        merge (before ++ [] :: after) = merge layers) ∧
      ∀ front last, layers = front ++ [last] → merge (layers ++ [last]) = merge layers) ∧
    (∀ component image : String,
      get? "deploymentConfig" (podTemplate component image labels) = some (.str component) ∧
      (∀ k v, k ≠ "deploymentConfig" → get? k labels = some v →
        get? k (podTemplate component image labels) = some v) ∧
      ∀ k, k ≠ "deploymentConfig" → get? k labels = none →
        get? k (podTemplate component image labels) = get? k (metering (.str component)
          (.str (String.ofList (Image.version image.toList))) (.str applicationType))) ∧
    ∀ (c : Component) (namespaceName : Value), ∃ b,
      Factory.bundleOf c (.proper labels) namespaceName = .ok b ∧
      get? "prometheus" b.labels = some (.str "application-monitoring") ∧
      get? "role" b.labels = some (.str "alert-rules") ∧
      ∀ k, k ≠ "prometheus" → k ≠ "role" → get? k b.labels = get? k labels := by
  refine ⟨⟨isMap_merge layers, fun k v => get?_merge_eq_some_iff hlayers,
    fun k => get?_merge_eq_none_iff hlayers⟩, ⟨?_, ?_, ?_⟩, fun component image => ?_,
    fun c namespaceName => ?_⟩
  · rintro before block after rfl
    exact merge_block before block after
  · rintro before after rfl
    simpa [merge] using merge_block before [] after
  · rintro front last rfl
    exact merge_twice front (hlayers last (by simp))
  · refine ⟨?_, fun k v hk hv => ?_, fun k hk hnone => ?_⟩
    · rw [get?_podTemplate hlabels, if_pos rfl]
    · rw [get?_podTemplate hlabels, if_neg hk.symm, hv, Option.some_or]
    · rw [get?_podTemplate hlabels, if_neg hk.symm, hnone, Option.none_or]
  · obtain ⟨b, hb, -⟩ := c.bundle_bindsLate labels namespaceName.plain
    refine ⟨b, hb, ?_, ?_, fun k hprometheus hrole => ?_⟩
    · rw [get?_bundle c hlabels hb]
      rfl
    · rw [get?_bundle c hlabels hb]
      rfl
    · rw [get?_bundle c hlabels hb]
      simp [Bundle.monitoringLabels, get?, hprometheus.symm, hrole.symm]

/-- Layers that disagree, and a group that has labels of metering, of its tier and of monitoring. -/
theorem last_layer_decides_overlapping :
    let layers : List Labels := [[("a", .str "1"), ("b", .str "1")], [("b", .str "2")],
      [("c", .str "3"), ("a", .str "3")]]
    let labels : Labels := [("rht.subcomp", .str "own"), ("deploymentConfig", .str "none"),
      ("role", .str "reader"), ("app", .str "x")]
    get? "b" (merge layers) = some (.str "2") ∧ get? "d" (merge layers) = none ∧
      merge (layers.take 1 ++ [merge (layers.drop 1)]) = merge layers ∧
      get? "deploymentConfig" (podTemplate "zync" "own/zync:v2.1" labels) = some (.str "zync") ∧
      get? "rht.subcomp" (podTemplate "zync" "own/zync:v2.1" labels) = some (.str "own") ∧
      get? "rht.prod_ver" (podTemplate "zync" "own/zync:v2.1" labels) = some (.str "master") ∧
      ∃ b, Factory.bundleOf .zyncQue (.proper labels) (.str "test") = .ok b ∧
        get? "role" b.labels = some (.str "alert-rules") ∧
        get? "app" b.labels = some (.str "x") := by
  intro layers labels
  have hlayers : ∀ l ∈ layers, IsMap l := by simp [layers, IsMap]
  have hlabels : IsMap labels := by simp [labels, IsMap]
  obtain ⟨⟨-, hsome, hnone⟩, ⟨hblock, -⟩, hpod, hbundle⟩ :=
    last_layer_decides layers hlayers labels hlabels
  obtain ⟨hname, hgroup, hmetering⟩ := hpod "zync" "own/zync:v2.1"
  obtain ⟨b, hb, -, hrole, hother⟩ := hbundle .zyncQue (.str "test")
  refine ⟨(hsome "b" _).mpr ⟨layers.take 1, _, layers.drop 2, rfl, rfl, ?_⟩,
    (hnone "d").mpr ?_, ?_, hname, hgroup _ _ (by decide) rfl,
    (hmetering "rht.prod_ver" (by decide) rfl).trans rfl, b, hb, hrole,
    (hother "app" (by decide) (by decide)).trans rfl⟩
  · simp [layers, get?]
  · simp [layers, get?]
  · exact hblock (layers.take 1) (layers.drop 1) [] rfl

end Labels
end DeployOptions
