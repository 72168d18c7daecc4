import DeployOptions.Label

/-! Layered labels: the last layer that has a label decides it. -/
namespace DeployOptions

namespace Assoc

variable {κ α : Type} [DecidableEq κ]

def IsMap (m : List (κ × α)) : Prop := (m.map Prod.fst).Nodup

theorem get?_eq_none_iff {k : κ} {m : List (κ × α)} : get? k m = none ↔ k ∉ m.map Prod.fst := by
  induction m with
  | nil => simp [get?]
  | cons e r ih =>
    by_cases he : e.1 = k
    · simp [get?, he]
    · simpa [get?, he, Ne.symm he] using ih

/-- A layer decides the keys that it has, and leaves the others as they were. -/
theorem get?_update {k : κ} {m layer : List (κ × α)} (h : IsMap layer) :
    get? k (update m layer) = (get? k layer).or (get? k m) := by
  induction layer generalizing m with
  | nil => rfl
  | cons e layer ih =>
    obtain ⟨hfirst, hrest⟩ := List.nodup_cons.mp h
    have hstep : get? k (update m (e :: layer)) =
        (get? k layer).or (if e.1 = k then some e.2 else get? k m) := by
      rw [← get?_put]
      exact ih hrest
    rw [hstep, get?]
    by_cases he : e.1 = k
    · subst he
      rw [get?_eq_none_iff.mpr hfirst]
      simp
    · simp [he]

theorem mem_keys_put {k j : κ} {value : α} {m : List (κ × α)} :
    j ∈ (put k value m).map Prod.fst ↔ j = k ∨ j ∈ m.map Prod.fst := by
  induction m with
  | nil => simp [put]
  | cons e r ih =>
    by_cases he : e.1 = k
    · simp [put, he]
    · simp only [put, he, if_false, List.map_cons, List.mem_cons, ih]
      exact or_left_comm

theorem IsMap.put {k : κ} {value : α} {m : List (κ × α)} (h : IsMap m) :
    IsMap (Assoc.put k value m) := by
  induction m with
  | nil => simp [IsMap, Assoc.put]
  | cons e r ih =>
    obtain ⟨hfirst, hrest⟩ := List.nodup_cons.mp h
    by_cases he : e.1 = k
    · simpa [IsMap, Assoc.put, he] using h
    · rw [IsMap, Assoc.put, if_neg he, List.map_cons, List.nodup_cons, mem_keys_put]
      exact ⟨fun hmem => hmem.elim he hfirst, ih hrest⟩

theorem IsMap.update {m layer : List (κ × α)} (h : IsMap m) : IsMap (Assoc.update m layer) := by
  induction layer generalizing m with
  | nil => exact h
  | cons e layer ih => exact ih h.put

end Assoc

namespace Labels
open Assoc

/-- Labels that are all among other labels, with the same values: a selector of the first matches
what has the others. -/
def IsWithin (selector labels : Labels) : Prop :=
  ∀ k v, get? k selector = some v → get? k labels = some v

/-- A last layer decides the labels that it has; the layers before it decide the others. -/
theorem get?_merge_snoc {k : String} (layers : List Labels) {last : Labels} (h : IsMap last) :
    get? k (merge (layers ++ [last])) = (get? k last).or (get? k (merge layers)) := by
  rw [merge, List.foldl_append]
  exact get?_update h

theorem isMap_merge (layers : List Labels) : IsMap (merge layers) := by
  have hfold (m : Labels) (h : IsMap m) : IsMap (layers.foldl update m) := by
    induction layers generalizing m with
    | nil => exact h
    | cons layer layers ih => exact ih _ h.update
  exact hfold [] List.nodup_nil

/-- A last layer of one label has it over all that comes before. -/
theorem get?_merge_label {k : String} (layers : List Labels) (name : String) (value : Value) :
    get? k (merge (layers ++ [[(name, value)]])) =
      if name = k then some value else get? k (merge layers) := by
  have hlast : IsMap [(name, value)] := by simp [IsMap]
  rw [get?_merge_snoc layers hlast, get?, get?]
  split <;> rfl

theorem get?_merge_singleton {k : String} {layer : Labels} (h : IsMap layer) :
    get? k (merge [layer]) = get? k layer := by
  refine (get?_merge_snoc [] h).trans ?_
  cases get? k layer <;> rfl

variable {k : String} {common : Labels}

/-- A pod template has the name of its tier, then the labels of its group, then metering labels. -/
theorem get?_podTemplate (hcommon : IsMap common) (component image : String) :
    get? k (podTemplate component image common) =
      if "deploymentConfig" = k then some (.str component)
      else (get? k common).or (get? k
        (metering (.str component) (.str (String.ofList (Image.version image.toList)))
          (.str applicationType))) := by
  have hmetering : IsMap (metering (.str component)
      (.str (String.ofList (Image.version image.toList))) (.str applicationType)) := by
    simp [IsMap, metering]
  rw [← get?_merge_singleton hmetering, ← get?_merge_snoc _ hcommon]
  exact get?_merge_label [_, common] "deploymentConfig" (.str component)

/-- Labels are within a pod template that is made from them. -/
theorem isWithin_podTemplate (hcommon : IsMap common)
    (hname : get? "deploymentConfig" common = none) (component image : String) :
    common.IsWithin (podTemplate component image common) := by
  intro k v hk
  have hne : "deploymentConfig" ≠ k := by
    rintro rfl
    rw [hname] at hk
    cases hk
  rw [get?_podTemplate hcommon, if_neg hne, hk, Option.some_or]

end Labels
end DeployOptions
