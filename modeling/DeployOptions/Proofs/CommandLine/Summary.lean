import DeployOptions.Proofs.CommandLine.Access
import DeployOptions.Proofs.CommandLine.Shown
import DeployOptions.Proofs.Resolve.Summary

/-! What becomes of options that are resolved: they are announced, and then their summary is shown,
or the call crashes over what the document has put into it. -/
namespace DeployOptions
open Run Console

namespace Notice

inductive IsMarkupFailure : Failure → Prop
  | markup (fault : MarkupFault) : IsMarkupFailure (.markup fault)

/-- What cannot be put into a panel is a value that is no text, as long as there is no null. -/
private theorem unrenderable?_eq_none_iff {rows : Summary} (hnull : ∀ e ∈ rows, e.2 ≠ .null) :
    unrenderable? rows = none ↔ rows.IsText := by
  rw [unrenderable?, Option.map_eq_none_iff, List.find?_eq_none]
  refine forall₂_congr fun e he => ?_
  have hvalue := hnull e he
  cases hkind : e.2 with
  | null => exact absurd hkind hvalue
  | _ => simp [Value.IsText]

/-- A panel with a value that is no text is refused. -/
private theorem exists_notRenderable (title : String) {rows : Summary}
    (hnull : ∀ e ∈ rows, e.2 ≠ .null) (h : ¬ rows.IsText) :
    ∃ kind, (panel title rows).lines = .error (.notRenderable kind) := by
  obtain ⟨v, hv⟩ := Option.ne_none_iff_exists'.mp (mt (unrenderable?_eq_none_iff hnull).mp h)
  refine ⟨v.kind, ?_⟩
  unfold lines Notice.panelRows
  simp only [hv]
  rfl

/-- A panel of texts can only have faulty markup. -/
private theorem lines_panel_fails (title : String) {rows : Summary}
    (hnull : ∀ e ∈ rows, e.2 ≠ .null) (h : rows.IsText) :
    FailsOnly IsMarkupFailure (panel title rows).lines := by
  have hstyled (s : String) :
      FailsOnly IsMarkupFailure ((styledText s.toList).mapError Failure.markup) :=
    .mapError fun fault => .markup fault
  unfold lines Notice.panelRows
  simp only [(unrenderable?_eq_none_iff hnull).mpr h]
  -- the title, the labels and the values are read in this order, and then all is laid out
  exact .map (.bind (hstyled _) fun _ => .bind (.mapM _ fun _ _ => hstyled _) fun _ =>
    .bind (.mapM _ fun _ _ => hstyled _) fun _ => .mapError fun fault => .markup fault) _

end Notice

namespace CommandLine
open Resolve (Target Yields)

/-- A call has resolved a record, and all that is left is to show it. -/
structure Resolves (args : List String) (w : World) (a : Arguments) (m : Manager) (k : Value)
    (t : Target) (r : Record) (w' : World) : Prop where
  served : resolving? w.folder args = some a
  resource : w.folder.manager (a.operands.headD "") = .ok m
  namespaceName : namespaceFor a m = k
  named : k.isTruthy = true
  target : targetFor a = t
  resolved : exec (Resolve.record m k (a.has "select") t) w = (.ok r, w')

/-- How a call can end that has resolved a record: with its summary, or in a crash, where something
cannot be listed, or is no text, or else is a text with an opening bracket in it or a backslash at
its end, and that is faulty markup. -/
inductive Ends (t : Target) (r : Record) : Outcome → Prop
  | shown {summary : Summary} {rows : List (List Char)} :
    r.summary = .ok summary → summary.IsText → (summaryPanel t summary).lines = .ok rows →
      Ends t r {}
  | unlisted {f : Failure} : r.summary = .error f → f.IsUnlisted → Ends t r (.crashed f)
  | notText {summary : Summary} (kind : String) :
    r.summary = .ok summary → ¬ summary.IsText → Ends t r (.crashed (.notRenderable kind))
  | markup {summary : Summary} {fault : MarkupFault} {e : String × Value} {s : String} :
    r.summary = .ok summary → summary.IsText →
      (summaryPanel t summary).lines = .error (.markup fault) → e ∈ summary → e.2 = .str s →
        '[' ∈ s.toList ∨ s.toList.getLast? = some '\\' → Ends t r (.crashed (.markup fault))

variable {a : Arguments} {m : Manager} {k : Value} {t : Target} {r : Record} {w w' : World}

namespace Ends

variable {o : Outcome}

/-- What cannot be listed crashes the call. -/
theorem eq_of_error (h : Ends t r o) {f : Failure} (hsummary : r.summary = .error f) :
    o = .crashed f := by
  cases h with
  | unlisted hfailed _ =>
    cases hfailed.symm.trans hsummary
    rfl
  | shown hok _ _ | notText _ hok _ | markup hok _ _ _ _ _ => cases hok.symm.trans hsummary

/-- A plain summary is shown. -/
theorem eq_of_isPlain (h : Ends t r o) {summary : Summary} (hsummary : r.summary = .ok summary)
    (hplain : summary.isPlain = true) : o = {} := by
  have hrows := Summary.isPlain_iff.mp hplain
  cases h with
  | shown _ _ _ => rfl
  | unlisted hfailed _ => cases hfailed.symm.trans hsummary
  | notText _ hok htext =>
    cases hok.symm.trans hsummary
    refine absurd (fun e he => ?_) htext
    obtain ⟨-, s, hs, -⟩ := hrows e he
    exact ⟨s, hs⟩
  | markup hok _ hfault _ _ _ =>
    cases hok.symm.trans hsummary
    obtain ⟨rows, hlines⟩ : ∃ rows, (summaryPanel t summary).lines = .ok rows :=
      Notice.lines_panel (by cases t <;> decide) hrows
    cases hlines.symm.trans hfault

end Ends

/-- A failure that is neither complained about nor a wish to stop crashes the call. -/
theorem resolveOptions_of_crash {f : Failure}
    (hmanager : w.folder.manager (a.operands.headD "") = .ok m)
    (hnamed : (namespaceFor a m).isTruthy = true)
    (hshow : exec (resolveAndShow m (namespaceFor a m) (a.has "select") (targetFor a)) w =
      (.error f, w')) (hhandled : f.isHandled = false) (haborted : f ≠ .aborted) :
    (resolveOptions a).run w = (.crashed f, w') := by
  have hserve : exec (serveOptions m (namespaceFor a m) (a.has "select") (targetFor a)) w =
      (.error f, w') := by
    rw [serveOptions, exec_tryCatch, exec_bind_error hshow]
    cases f with
    | options e => cases hhandled
    | _ => rfl
  rw [run_resolveOptions hmanager hnamed, hserve]
  cases f with
  | aborted => exact absurd rfl haborted
  | _ => rfl

private theorem isPlain_labels (r : Record) :
    ∀ label ∈ r.labels, isPlain (label ++ ":").toList = true := by
  cases r <;> (dsimp only [Record.labels]; decide)

/-- A text that is not plain has an opening bracket in it or a backslash at its end. -/
private theorem exists_markup {summary : Summary} (hr : r.summary = .ok summary)
    (htext : summary.IsText) {f : Failure} (hlines : (summaryPanel t summary).lines = .error f) :
    ∃ e ∈ summary, ∃ s, e.2 = .str s ∧
      ('[' ∈ s.toList ∨ s.toList.getLast? = some '\\') := by
  refine Classical.byContradiction fun hplain => ?_
  have hrows : ∀ e ∈ summary, Console.isPlain (e.1 ++ ":").toList = true ∧
      ∃ s, e.2 = .str s ∧ Console.isPlain s.toList = true := by
    intro e he
    obtain ⟨s, hs⟩ := htext e he
    refine ⟨?_, s, hs, isPlain_iff.mpr (not_or.mp fun h => hplain ⟨e, he, s, hs, h⟩)⟩
    have hlabel : e.1 ∈ r.labels :=
      (Record.parts_of_summary hr).1 ▸ List.mem_map_of_mem he
    exact isPlain_labels r _ hlabel
  have htitle : Console.isPlain (t.name ++ " options").toList = true := by cases t <;> decide
  obtain ⟨lines, hok⟩ := Notice.lines_panel htitle hrows
  cases hok.symm.trans hlines

/-- What a call resolves, its component yields. -/
theorem Resolves.yields {args : List String} (h : Resolves args w a m k t r w') :
    Yields m k t r := by
  have hrecord := h.resolved
  cases t with
  | zync =>
    obtain ⟨_, v, -, hrecord⟩ := exists_of_exec_bind_ok hrecord
    obtain ⟨o, u, hzync, hmade⟩ := exists_of_exec_bind_ok hrecord
    cases hmade
    exact .zync (congrArg Prod.fst hzync)
  | apicast =>
    obtain ⟨o, u, hapicast, hmade⟩ := exists_of_exec_bind_ok hrecord
    cases hmade
    rw [exec_ofExcept] at hapicast
    exact .apicast (congrArg Prod.fst hapicast)
  | images =>
    obtain ⟨o, u, himages, hmade⟩ := exists_of_exec_bind_ok hrecord
    cases hmade
    rw [exec_ofExcept] at himages
    exact .images (congrArg Prod.fst himages)

/-- A call that has resolved a record says so first, whatever comes then. -/
theorem Resolves.exists_ends {args : List String} (h : Resolves args w a m k t r w')
    (registry : Registry)
    (hnull : ∀ summary, r.summary = .ok summary → ∀ e ∈ summary, e.2 ≠ .null) :
    ∃ o u, (run registry args).run w = (o, u) ∧ w'.notices ++ [announcement t] <+: u.notices ∧
      Ends t r o := by
  obtain ⟨hworkloads, hother⟩ : (∀ o, r ≠ .workloads o) ∧ r ≠ .other := by
    cases h.yields <;> exact ⟨nofun, nofun⟩
  obtain ⟨hserved, hresource, rfl, hnamed, rfl, hresolved⟩ := h
  have hrun : (run registry args).run w = (resolveOptions a).run w := by
    have hcases := run_cases registry args w.folder
    rw [hserved] at hcases
    exact hcases w rfl
  have hshow := exec_resolveAndShow hresolved
  rw [hrun]
  -- it has been said, so all that can still fail is the summary, and then its panel
  cases hsummary : r.summary with
  | error f =>
    have hunlisted := Record.summary_fails hworkloads hother f hsummary
    rw [hsummary] at hshow
    refine ⟨_, _, resolveOptions_of_crash hresource hnamed hshow ?_ ?_, List.prefix_refl _,
      .unlisted hsummary hunlisted⟩
    · cases hunlisted <;> rfl
    · rintro rfl
      cases hunlisted
  | ok summary =>
    rw [hsummary] at hshow
    replace hshow := hshow.trans (exec_say _ _)
    have hnull := hnull summary hsummary
    by_cases htext : summary.IsText
    · have hfails := Notice.lines_panel_fails ((targetFor a).name ++ " options") hnull htext
      cases hlines : (summaryPanel (targetFor a) summary).lines with
      | ok rows =>
        rw [hlines] at hshow
        exact ⟨_, _, resolveOptions_of_shown hresource hnamed hshow, List.prefix_append _ _,
          .shown hsummary htext hlines⟩
      | error f =>
        obtain ⟨fault⟩ := hfails f hlines
        obtain ⟨e, he, s, hs, hmarkup⟩ := exists_markup hsummary htext hlines
        rw [hlines] at hshow
        exact ⟨_, _, resolveOptions_of_crash hresource hnamed hshow rfl nofun,
          List.prefix_append _ _, .markup hsummary htext hlines he hs hmarkup⟩
    · obtain ⟨kind, hkind⟩ :=
        Notice.exists_notRenderable ((targetFor a).name ++ " options") hnull htext
      rw [summaryPanel, hkind] at hshow
      exact ⟨_, _, resolveOptions_of_crash hresource hnamed hshow rfl nofun,
        List.prefix_append _ _, .notText kind hsummary htext⟩

/-- A call that is to resolve APIcast for a document in a namespace resolves what the document
yields. -/
private theorem exists_resolves_apicast (args : List String) (path ns : String)
    (p : ApicastOptions → Bool)
    (hargs : (resolving? w.folder args).map (fun a =>
      (a.operands, a.value? "namespace", a.value? "component")) =
        some ([path], none, some "apicast"))
    (hdocument : (w.folder.manager path).toOption.any (fun m =>
      m.namespaceName.sameKey (.str ns) && (Resolve.apicast m (.str ns)).toOption.any p) = true)
    (hnamed : ns ≠ "") :
    ∃ a m o, Resolves args w a m (.str ns) .apicast (.apicast o) w ∧ p o = true := by
  obtain ⟨a, hserved, ha⟩ := Option.map_eq_some_iff.mp hargs
  simp only [Prod.mk.injEq] at ha
  obtain ⟨hoperands, hgiven, hcomponent⟩ := ha
  obtain ⟨m, hmanager, hdocument⟩ := exists_of_toOption_any hdocument
  obtain ⟨hnamespace, hyields⟩ := Bool.and_eq_true_iff.mp hdocument
  obtain ⟨o, hapicast, ho⟩ := exists_of_toOption_any hyields
  refine ⟨a, m, o, ⟨hserved, ?_, ?_, Value.isTruthy_str.mpr hnamed, ?_, ?_⟩, ho⟩
  · rw [hoperands]
    exact hmanager
  · rw [namespaceFor, hgiven]
    exact Value.sameKey_str.mp hnamespace
  · rw [targetFor, hcomponent]
    rfl
  · rw [Resolve.record, hapicast]
    rfl

/-- A record of an accepted document has a summary exactly where the quantities, counts and pull
secret names in it can be listed, and one of texts exactly where also the image overrides, the
interface and the namespace in it are texts. A call that resolves a record always says so, and then
it ends as the summary has it: shown, or in a crash. -/
theorem resolved_options_summarised {entries : List (Value × Value)} {m : Manager}
    (hm : Manager.ofDocument (.map entries) = .ok m) :
    (∀ k t r, Yields m k t r →
      ((∃ summary, r.summary = .ok summary) ↔
        ∀ u ∈ t.uses, u.2 ≠ .text → u.2.Fits ((Value.map entries).valueAt u.1)) ∧
      ((∃ summary, r.summary = .ok summary ∧ summary.IsText) ↔
        (∀ u ∈ t.uses, u.2.Fits ((Value.map entries).valueAt u.1)) ∧
          (t ≠ .images → k.IsText))) ∧
    ∀ registry args w a k t r w', Resolves args w a m k t r w' →
      Yields m k t r ∧ ∃ o u, (run registry args).run w = (o, u) ∧
        w'.notices ++ [announcement t] <+: u.notices ∧ Ends t r o := by
  obtain ⟨rfl, hsound⟩ := Document.sound_of_accepted hm
  refine ⟨fun k t r hr => ⟨hr.exists_summary_iff hsound, hr.exists_text_summary_iff hsound⟩, ?_⟩
  intro registry args w a k t r w' h
  have hnull : k ≠ .null := by
    rintro rfl
    cases h.named
  exact ⟨h.yields, h.exists_ends registry fun _ => h.yields.ne_null_of_summary hnull⟩

/-- Limits that are listed are shown. -/
theorem resolved_options_summarised_limits :
    let w : World := {
      folder := [("f", .file (Text.Utf8.encode ("kind: APIManager\nmetadata:\n  name: a\n" ++
        "  namespace: b\nspec:\n  apicast:\n    stagingSpec:\n      resources:\n" ++
        "        limits:\n          memory: 128Mi\n          cpu: 1\n").toList))]
      picks := ⟨fun n => n, 0⟩ }
    ∃ u, (run Registry.builtIn ["resolve", "f", "--component", "apicast"]).run w = ({}, u) ∧
      [announcement .apicast] <+: u.notices := by
  intro w
  obtain ⟨a, m, o, h, hplain⟩ := exists_resolves_apicast (w := w)
    ["resolve", "f", "--component", "apicast"] "f" "b"
    (fun o => o.summary.toOption.any Summary.isPlain)
    (by decide +kernel) (by decide +kernel) (by decide)
  obtain ⟨entries, -, hm⟩ := Folder.exists_of_manager h.resource
  obtain ⟨-, c, u, hrun, hnotices, hends⟩ :=
    (resolved_options_summarised hm).2 Registry.builtIn _ w a _ _ _ w h
  obtain ⟨summary, hsummary, hplain⟩ := exists_of_toOption_any hplain
  obtain rfl := hends.eq_of_isPlain hsummary hplain
  exact ⟨u, hrun, hnotices⟩

private def hasNoOrder : Except Failure Summary → Bool
  | .error .unsuitableValue => true
  | _ => false

/-- Where a text and a number are keys of one mapping, they have no order, and so the call crashes
after it has said that options are resolved. -/
theorem resolved_options_not_summarised :
    let w : World := {
      folder := [("f", .file (Text.Utf8.encode ("kind: APIManager\nmetadata:\n  name: a\n" ++
        "  namespace: b\nspec:\n  apicast:\n    stagingSpec:\n      resources:\n" ++
        "        limits:\n          1: a\n          cpu: b\n").toList))]
      picks := ⟨fun n => n, 0⟩ }
    ∃ u, (run Registry.builtIn ["resolve", "f", "--component", "apicast"]).run w =
        (.crashed .unsuitableValue, u) ∧
      [announcement .apicast] <+: u.notices := by
  intro w
  obtain ⟨a, m, o, h, hfails⟩ := exists_resolves_apicast (w := w)
    ["resolve", "f", "--component", "apicast"] "f" "b"
    (fun o => hasNoOrder o.summary)
    (by decide +kernel) (by decide +kernel) (by decide)
  have hsummary : o.summary = .error .unsuitableValue := by
    unfold hasNoOrder at hfails
    split at hfails
    · assumption
    · cases hfails
  obtain ⟨c, u, hrun, hnotices, hends⟩ :=
    h.exists_ends Registry.builtIn fun _ hok => by cases hsummary.symm.trans hok
  obtain rfl := hends.eq_of_error hsummary
  exact ⟨u, hrun, hnotices⟩

end CommandLine
end DeployOptions
