import DeployOptions.Alert.Factory
import DeployOptions.Proofs.Template
import DeployOptions.Proofs.Text.Replace

/-! Rules come out the same whether their namespace is known when they are derived or is put in
place of the placeholder later. -/
namespace DeployOptions

/-- Something is derived for every namespace, and putting a namespace in place of the placeholder
there is the same as deriving it for the namespace with the placeholder so replaced. -/
def BindsLate {α : Type} (subst : String → α → α) (derive : String → Except Failure α) : Prop :=
  ∀ a, ∃ x, derive a = .ok x ∧
    ∀ b, derive (Text.replaceString namespacePlaceholder b a) = .ok (subst b x)

variable {α : Type} {subst : String → α → α}

/-- Namespaces can be put in any number of times. -/
theorem BindsLate.foldl {derive : String → Except Failure α} (h : BindsLate subst derive)
    {a : String} {x : α} (hx : derive a = .ok x) (bs : List String) :
    derive (bs.foldl (fun n b => Text.replaceString namespacePlaceholder b n) a) =
      .ok (bs.foldl (fun x b => subst b x) x) := by
  induction bs generalizing a x with
  | nil => exact hx
  | cons b bs ih =>
    obtain ⟨y, hy, hbound⟩ := h a
    obtain rfl := Except.ok.inj (hx.symm.trans hy)
    exact ih (hbound b)

/-- The placeholder itself gives way to the namespace. -/
theorem replaceString_placeholder (b : String) :
    Text.replaceString namespacePlaceholder b namespacePlaceholder = b := by
  have hself : Text.replaceAll namespacePlaceholder.toList b.toList
      (namespacePlaceholder.toList ++ []) = b.toList ++ [] :=
    Text.replaceAll_append_self (by decide) b.toList []
  rw [List.append_nil, List.append_nil] at hself
  rw [Text.replaceString, hself, String.ofList_toList]

theorem BindsLate.nil :
    BindsLate (fun b => List.map (subst b)) fun _ => (pure [] : Except Failure (List α)) :=
  fun _ => ⟨[], rfl, fun _ => rfl⟩

theorem BindsLate.cons {first : String → Except Failure α}
    {rest : String → Except Failure (List α)} (hfirst : BindsLate subst first)
    (hrest : BindsLate (fun b => List.map (subst b)) rest) :
    BindsLate (fun b => List.map (subst b)) fun a => do return (← first a) :: (← rest a) := by
  intro a
  obtain ⟨x, hx, hx'⟩ := hfirst a
  obtain ⟨xs, hxs, hxs'⟩ := hrest a
  refine ⟨x :: xs, ?_, fun b => ?_⟩
  · simp only [hx, hxs]
    rfl
  · simp only [hx' b, hxs' b]
    rfl

namespace Alert

def Plan.blocks? (values : List (String × String)) (p : Plan) : Option (List (List Char)) :=
  Template.blocks? "namespace" (fun n => (Assoc.get? n values).map String.toList)
    (Template.pieces p.template.toList)

/-- The placeholder can stand in a condition only where its namespace has it. -/
def Plan.isBindable (values : List (String × String)) (p : Plan) : Bool :=
  (p.blocks? values).any (Text.fenced namespacePlaceholder.toList)

variable {p : Plan} {values : List (String × String)} {blocks : List (List Char)}

theorem Plan.condition_eq (h : p.blocks? values = some blocks) (a : String) :
    condition p.template (("namespace", a) :: values) =
      .ok (String.ofList (a.toList.intercalate blocks)) := by
  have hvalues : (fun n => (Assoc.get? n (("namespace", a) :: values)).map String.toList) =
      fun n => if "namespace" = n then some a.toList else (Assoc.get? n values).map String.toList := by
    funext n
    rw [Assoc.get?]
    split <;> rfl
  rw [condition, hvalues, Template.fill, (Template.fillPieces_eq_intercalate h _ a.toList).2]

/-- A rule of such a plan changes with its namespace only. -/
theorem Plan.bindsLate (h : p.isBindable values = true) :
    BindsLate Rule.withNamespace fun a => p.rule (("namespace", a) :: values) := by
  obtain ⟨blocks, hblocks, hfenced⟩ := Option.any_eq_true _ _ |>.mp h
  intro a
  simp only [Plan.rule, condition_eq hblocks]
  refine ⟨_, rfl, fun b => ?_⟩
  have hreplace := Text.replaceAll_intercalate (by decide) hfenced b.toList a.toList
  simp only [Except.map, Rule.withNamespace, Text.replaceString, String.toList_ofList, hreplace]

theorem bindsLate_mapM {plans : List Plan} (h : ∀ p ∈ plans, p.isBindable values = true) :
    BindsLate (fun b => List.map (Rule.withNamespace b))
      fun a => plans.mapM (Plan.rule (("namespace", a) :: values)) := by
  induction plans with
  | nil => exact .nil
  | cons p plans ih =>
    simp only [List.mapM_cons]
    exact (Plan.bindsLate (h p List.mem_cons_self)).cons
      (ih fun q hq => h q (List.mem_cons_of_mem p hq))

section Checks

-- the templates are checked as lists of characters, since evaluating long texts is slow
set_option maxRecDepth 8000

theorem targetDown_bindsLate (job : String) (h : job ∈ ["zync", "zync-que"]) :
    BindsLate Rule.withNamespace fun a => targetDown a job := by
  refine Plan.bindsLate ?_
  simp only [List.mem_cons, List.not_mem_nil, or_false] at h
  simp only [Plan.isBindable, Plan.blocks?, selector, String.toList_append, namespacePlaceholder]
  repeat rw [String.toList_ofList]
  rcases h with rfl | rfl <;> decide

theorem jobCount_bindsLate (alert jobType description : String)
    (h : jobType ∈ ["scheduled", "failed", "ready"]) :
    BindsLate Rule.withNamespace fun a => jobCount a alert jobType description := by
  refine Plan.bindsLate ?_
  simp only [List.mem_cons, List.not_mem_nil, or_false] at h
  simp only [Plan.isBindable, Plan.blocks?, selector, String.toList_append, namespacePlaceholder]
  repeat rw [String.toList_ofList]
  rcases h with rfl | rfl | rfl <;> decide

theorem isBindable_zyncRequestsHigh : zyncRequestsHigh.isBindable [] = true := by
  simp only [zyncRequestsHigh, Plan.isBindable, Plan.blocks?, selector, String.toList_append,
    namespacePlaceholder]
  repeat rw [String.toList_ofList]
  decide

theorem isBindable_apicastPlans : ∀ p ∈ apicastPlans, p.isBindable [] = true := by
  simp only [apicastPlans, List.forall_mem_cons, Plan.isBindable, Plan.blocks?, gatewayPods,
    responseTimes, selector, String.toList_append, namespacePlaceholder]
  repeat rw [String.toList_ofList]
  decide

theorem isBindable_workloadPlans :
    ∀ p ∈ workloadPlans, p.isBindable [("workloads", workloadNames)] = true := by
  simp only [workloadPlans, List.forall_mem_cons, Plan.isBindable, Plan.blocks?, workloadPods,
    liveContainers, workloadControllers, selector, String.toList_append, namespacePlaceholder]
  repeat rw [String.toList_ofList]
  decide

end Checks

end Alert

open Alert in
/-- The rules of each component. -/
theorem Component.rules_bindsLate (c : Component) :
    BindsLate (fun b => List.map (Rule.withNamespace b)) fun a => c.rules a := by
  cases c with
  | zync =>
    have hdown := targetDown_bindsLate "zync" (by simp)
    have hrequests := Plan.bindsLate isBindable_zyncRequestsHigh
    simpa [rules, zyncRules] using hdown.cons (hrequests.cons .nil)
  | zyncQue =>
    have hdown := targetDown_bindsLate "zync-que" (by simp)
    have hscheduled := jobCount_bindsLate "ThreescaleZyncQueScheduledJobCountHigh" "scheduled"
      "scheduled" (by simp)
    have hfailed := jobCount_bindsLate "ThreescaleZyncQueFailedJobCountHigh" "failed" "failed"
      (by simp)
    have hready := jobCount_bindsLate "ThreescaleZyncQueReadyJobCountHigh" "ready" "ready"
      (by simp)
    simpa [rules, zyncQueRules] using
      hdown.cons (hscheduled.cons (hfailed.cons (hready.cons .nil)))
  | apicast => exact bindsLate_mapM isBindable_apicastPlans
  | workloads => exact bindsLate_mapM isBindable_workloadPlans

/-- A group name ends in a slash and the name of the component, which do not hold the
placeholder. -/
theorem Component.replaceString_groupName (c : Component) (a b : String) :
    Text.replaceString namespacePlaceholder b (a ++ "/" ++ c.bundleName ++ ".rules") =
      Text.replaceString namespacePlaceholder b a ++ "/" ++ c.bundleName ++ ".rules" := by
  have hname : ¬ namespacePlaceholder.toList <:+: (c.bundleName ++ ".rules").toList := by
    cases c <;> decide
  have hslash : "/".toList = ['/'] := String.toList_ofList
  apply String.toList_injective
  simp only [Text.replaceString, String.toList_append, String.toList_ofList, hslash,
    List.append_assoc, List.cons_append, List.nil_append] at hname ⊢
  rw [Text.replaceAll_append_cons (by decide) (by decide), Text.replaceAll_of_not_infix hname]

/-- The bundle of each component. -/
theorem Component.bundle_bindsLate (c : Component) (labels : Labels) :
    BindsLate Bundle.withNamespace fun a => c.bundle labels a := by
  intro a
  obtain ⟨rules, hrules, hrules'⟩ := c.rules_bindsLate a
  simp only [bundle, hrules]
  refine ⟨_, rfl, fun b => ?_⟩
  simp only [hrules' b, Except.map, Bundle.withNamespace, RuleGroup.withNamespace, List.map_cons,
    List.map_nil, c.replaceString_groupName]

namespace Factory

def builtInLabels : Component → Held Labels
  | .zync => zyncOptions.zyncLabels
  | .zyncQue => zyncOptions.queLabels
  | .apicast => apicastOptions.commonLabels
  | .workloads => workloadOptions.commonLabels

/-- A built-in factory derives its bundle for the placeholder. -/
theorem bundle_ofComponent (c : Component) :
    (ofComponent c).bundle = bundleOf c (builtInLabels c) (.str namespacePlaceholder) := by
  have hbundle (record : Record) (h : validated c.bundleName record = .ok record) :
      (do
        let _ ← validated c.bundleName record
        bundleOf c (builtInLabels c) (.str namespacePlaceholder)) =
        bundleOf c (builtInLabels c) (.str namespacePlaceholder) := by
    rw [h]
    rfl
  cases c with
  | zync => exact hbundle (.zync zyncOptions) rfl
  | zyncQue => exact hbundle (.zync zyncOptions) rfl
  | apicast => exact hbundle (.apicast apicastOptions) rfl
  | workloads => exact hbundle (.workloads workloadOptions) rfl

/-- For all labels and namespaces each component has a bundle. Putting a namespace in place of the
placeholder there, once or any number of times in turn, gives the bundle that is derived for the
namespace with the placeholder replaced in it as often. So the bundle of a built-in factory turns
into the one derived for any namespace, and two replacements there are one with the second made in
the first. -/
theorem bundleOf_withNamespace (c : Component) :
    (∀ labels a, ∃ bundle, bundleOf c (.proper labels) (.str a) = .ok bundle ∧
      (∀ b, bundleOf c (.proper labels) (.str (Text.replaceString namespacePlaceholder b a)) =
        .ok (bundle.withNamespace b)) ∧
      ∀ bs : List String, bundleOf c (.proper labels)
          (.str (bs.foldl (fun n b => Text.replaceString namespacePlaceholder b n) a)) =
        .ok (bs.foldl (fun bundle b => bundle.withNamespace b) bundle)) ∧
    ∃ placeholder, (ofComponent c).bundle = .ok placeholder ∧
      (∀ b, bundleOf c (builtInLabels c) (.str b) = .ok (placeholder.withNamespace b)) ∧
      ∀ b b', (placeholder.withNamespace b).withNamespace b' =
        placeholder.withNamespace (Text.replaceString namespacePlaceholder b' b) := by
  have hderived (labels : Labels) :
      BindsLate Bundle.withNamespace fun a => bundleOf c (.proper labels) (.str a) :=
    c.bundle_bindsLate labels
  refine ⟨fun labels a => ?_, ?_⟩
  · obtain ⟨bundle, hbundle, hbound⟩ := hderived labels a
    exact ⟨bundle, hbundle, hbound, (hderived labels).foldl hbundle⟩
  · obtain ⟨labels, hlabels⟩ : ∃ labels, builtInLabels c = .proper labels := by
      cases c <;> exact ⟨_, rfl⟩
    obtain ⟨placeholder, hplaceholder, hbound⟩ := hderived labels namespacePlaceholder
    simp only [replaceString_placeholder] at hbound
    rw [bundle_ofComponent, hlabels]
    refine ⟨placeholder, hplaceholder, hbound, fun b b' => ?_⟩
    obtain ⟨bundle, hbundle, hagain⟩ := hderived labels b
    obtain rfl := Except.ok.inj ((hbound b).symm.trans hbundle)
    exact Except.ok.inj ((hagain b').symm.trans (hbound _))

end Factory

end DeployOptions
