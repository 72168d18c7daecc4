import DeployOptions.Console.Line
import DeployOptions.Proofs.Console.Layout

/-! Notices that are always printed: what a spinner and a step say when the names in them open no
bracket. -/
namespace DeployOptions
open Console

/-- No characters that have another lower case run over small letters. -/
private theorem lowerRuns_outside :
    ∀ run ∈ Text.lowerRuns.toList, run.2.1 < 'a'.toNat ∨ 'z'.toNat < run.1 := by
  decide +kernel

/-- A text in small letters is in lower case. -/
theorem lower_of_small {s : List Char}
    (h : s.all (fun c => 'a'.toNat ≤ c.toNat && c.toNat ≤ 'z'.toNat) = true) :
    Text.lower s = s := by
  have hafter (before : List Char) : Text.lowerAfter before s = s := by
    induction s generalizing before with
    | nil => rfl
    | cons c s ih =>
      simp only [List.all_cons, Bool.and_eq_true, decide_eq_true_eq] at h
      obtain ⟨⟨ha, hz⟩, hrest⟩ := h
      have hsigma : c ≠ 'Σ' := fun he => absurd (he ▸ hz) (by decide)
      have hdotted : c ≠ 'İ' := fun he => absurd (he ▸ hz) (by decide)
      have hrun : Text.mapByRuns Text.lowerRuns c = none := by
        rw [Text.mapByRuns, Option.map_eq_none_iff, Array.find?_eq_none]
        rintro ⟨first, last, step, shift⟩ hrun hinside
        have hout := lowerRuns_outside _ (Array.mem_def.mp hrun)
        simp only [Bool.and_eq_true, decide_eq_true_eq] at hinside hout
        omega
      rw [Text.lowerAfter, ih hrest, if_neg hsigma, if_neg hdotted, hrun]
      rfl
  exact hafter []

/-- A word in small letters is read as it is. -/
theorem ofName_word {word : String} (hstripped : Text.strip word.toList ≠ "none".toList)
    (hword : Text.splitWords word.toList = [word.toList]) :
    Style.ofName word.toList = Style.ofWords {} [word] := by
  rw [Style.ofName, if_neg hstripped, hword, List.map_singleton, String.ofList_toList]

/-- The styles of these notices. -/
private theorem isTagStyle_own :
    ∀ style ∈ ["info", "muted", "success", "highlight"], IsTagStyle style := by
  intro style hstyle
  simp only [List.mem_cons, List.not_mem_nil, or_false] at hstyle
  have hsmall : style.toList.all (fun c => 'a'.toNat ≤ c.toNat && c.toNat ≤ 'z'.toNat) = true := by
    rcases hstyle with rfl | rfl | rfl | rfl <;> decide
  have hlower := lower_of_small hsmall
  rcases hstyle with rfl | rfl | rfl | rfl
  all_goals
    refine .of_unknown (by decide) (by decide) (by decide) (by decide) hlower ?_
    rw [ofName_word (by decide) (by decide), Style.ofWords, hlower]
    rfl

theorem toList_tagged (style text : String) :
    (tagged style text).toList = (Segment.styled style text.toList).markup := by
  simp [tagged, Segment.markup]

namespace Notice

/-- A spinner with a plain message. -/
theorem lines_spinner {message : String} (h : isPlain message.toList = true) :
    (Notice.spinner message).lines = .ok [] := by
  have hsegments : ∀ g ∈ [Segment.styled "info" message.toList], g.WellFormed := by
    intro g hg
    rw [List.mem_singleton.mp hg]
    exact ⟨isTagStyle_own _ (by simp), h⟩
  obtain ⟨s, hs, -⟩ := styledText_segments hsegments
  rw [List.flatMap_singleton, ← toList_tagged] at hs
  rw [lines, hs]

/-- A message whose markup has a readable text is printed. -/
private theorem lines_of_readable {n : Notice} {markup : String} (hn : n.markup? = some markup)
    {s : Styled} (hs : styledText markup.toList = .ok s) (hreadable : s.Readable) :
    ∃ rows, n.lines = .ok rows := by
  have hrows := Styled.rows_of_readable (hreadable.highlighted.wrap terminalWidth .fold)
  obtain ⟨rows, htext⟩ : ∃ rows, textRows markup = .ok rows := by
    simp only [textRows, hs, bind, Except.bind, hrows, pure, Except.pure]
    exact ⟨_, rfl⟩
  cases n with
  | spinner _ | panel _ _ => cases hn
  | _ =>
    cases hn
    simp only [lines, markup?, Option.getD_some, htext]
    exact ⟨_, rfl⟩

private theorem isPlain_cons_blank {t : List Char} (h : isPlain t = true) :
    isPlain (' ' :: t) = true := by
  obtain ⟨hbracket, hlast⟩ := isPlain_iff.mp h
  refine isPlain_iff.mpr ⟨by simpa using hbracket, ?_⟩
  cases t with
  | nil => decide
  | cons c t => rw [List.getLast?_cons_cons]; exact hlast

/-- A step with a plain message that ends in a highlighted text without brackets. -/
theorem lines_step {message text : String} (hmessage : isPlain message.toList = true)
    (htext : '[' ∉ text.toList) :
    ∃ rows, (Notice.step (message ++ highlight text)).lines = .ok rows := by
  have hsegments : ∀ g ∈ [Segment.styled "muted" ['•'], .plain (' ' :: message.toList)],
      g.WellFormed := by
    intro g hg
    simp only [List.mem_cons, List.not_mem_nil, or_false] at hg
    rcases hg with rfl | rfl
    · exact ⟨isTagStyle_own _ (by simp), by decide⟩
    · exact isPlain_cons_blank hmessage
  obtain ⟨s, hs, hreadable⟩ :=
    styledText_segments_styled hsegments (isTagStyle_own "highlight" (by simp)) htext
  have hmarkup : [Segment.styled "muted" ['•'], .plain (' ' :: message.toList)].flatMap
      Segment.markup ++ (Segment.styled "highlight" text.toList).markup =
        (tagged "muted" "•" ++ " " ++ (message ++ highlight text)).toList := by
    rw [String.toList_append, String.toList_append, String.toList_append, highlight,
      toList_tagged, toList_tagged]
    simp [Segment.markup]
  rw [hmarkup] at hs
  exact lines_of_readable rfl hs hreadable

/-- A message with a highlighted text in its middle, all of it plain. -/
private theorem lines_around {n : Notice} {style mark before text after : String}
    (hn : n.markup? = some (tagged style mark ++ " " ++ (before ++ highlight text ++ after)))
    (hstyle : IsTagStyle style) (hmark : isPlain mark.toList = true)
    (hbefore : isPlain before.toList = true) (htext : isPlain text.toList = true)
    (hafter : isPlain after.toList = true) :
    ∃ rows, n.lines = .ok rows := by
  have hsegments : ∀ g ∈ [Segment.styled style mark.toList, .plain (' ' :: before.toList),
      .styled "highlight" text.toList, .plain after.toList], g.WellFormed := by
    intro g hg
    simp only [List.mem_cons, List.not_mem_nil, or_false] at hg
    rcases hg with rfl | rfl | rfl | rfl
    · exact ⟨hstyle, hmark⟩
    · exact isPlain_cons_blank hbefore
    · exact ⟨isTagStyle_own _ (by simp), htext⟩
    · exact hafter
  obtain ⟨s, hs, hreadable⟩ := styledText_segments hsegments
  have hmarkup : [Segment.styled style mark.toList, .plain (' ' :: before.toList),
      .styled "highlight" text.toList, .plain after.toList].flatMap Segment.markup =
        (tagged style mark ++ " " ++ (before ++ highlight text ++ after)).toList := by
    simp only [String.toList_append, highlight, toList_tagged]
    simp [Segment.markup]
  rw [hmarkup] at hs
  exact lines_of_readable hn hs hreadable

theorem lines_success {before text after : String} (hbefore : isPlain before.toList = true)
    (htext : isPlain text.toList = true) (hafter : isPlain after.toList = true) :
    ∃ rows, (Notice.success (before ++ highlight text ++ after)).lines = .ok rows :=
  lines_around rfl (isTagStyle_own _ (by simp)) (by decide) hbefore htext hafter

theorem lines_action {before text after : String} (hbefore : isPlain before.toList = true)
    (htext : isPlain text.toList = true) (hafter : isPlain after.toList = true) :
    ∃ rows, (Notice.action (before ++ highlight text ++ after)).lines = .ok rows :=
  lines_around rfl (isTagStyle_own _ (by simp)) (by decide) hbefore htext hafter

end Notice
end DeployOptions
