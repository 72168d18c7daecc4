import DeployOptions.Proofs.Console.Line

/-! A panel of plain texts is always printed: columns and the title bring in no style that cannot be
read. -/
namespace DeployOptions.Console

/-- Where every item has a result of one kind, so has the list. -/
theorem exists_mapM {ε α β : Type} {f : α → Except ε β} {P : β → Prop} {l : List α}
    (h : ∀ a ∈ l, ∃ b, f a = .ok b ∧ P b) : ∃ bs, l.mapM f = .ok bs ∧ ∀ b ∈ bs, P b := by
  induction l with
  | nil => exact ⟨[], rfl, by simp⟩
  | cons a l ih =>
    obtain ⟨b, hb, hP⟩ := h a List.mem_cons_self
    obtain ⟨bs, hbs, hall⟩ := ih fun a ha => h a (List.mem_cons_of_mem _ ha)
    refine ⟨b :: bs, ?_, List.forall_mem_cons.mpr ⟨hP, hall⟩⟩
    rw [List.mapM_cons, hb]
    simp only [bind, Except.bind, hbs, pure, Except.pure]

/-- What is worked out in two steps is worked out where each step is. -/
theorem exists_bind {ε α β : Type} {x : Except ε α} {g : α → Except ε β} {P : α → Prop}
    (hx : ∃ a, x = .ok a ∧ P a) (hg : ∀ a, P a → ∃ b, g a = .ok b) : ∃ b, x >>= g = .ok b := by
  obtain ⟨a, rfl, ha⟩ := hx
  exact hg a ha

/-- The style of a title. -/
private theorem isTagStyle_bold : IsTagStyle "bold" := by
  have hlower : Text.lower "bold".toList = "bold".toList := lower_of_small (by decide)
  have hname : Style.ofName "bold".toList = .ok { attributes := [("bold", true)] } := by
    rw [ofName_word (by decide) (by decide), Style.ofWords, hlower]
    rfl
  refine ⟨by decide, by decide, by decide, by decide, ?_, ?_⟩
  · rw [normalizeStyle, hname]
    rfl
  · rw [styleFault?, hname]

namespace Styled.Readable

variable {s : Styled}

theorem indent (hs : s.Readable) (count : Nat) (c : Char) : (s.indent count c).Readable := by
  apply hs.of_styles
  intro p hp
  obtain ⟨q, hq, rfl⟩ := List.mem_map.mp hp
  exact ⟨q, hq, rfl⟩

/-- A readable text has rows in a column of any width. -/
theorem exists_column (hs : s.Readable) (width : Nat) : ∃ rows, s.column width = .ok rows := by
  have hfilled : ∀ line ∈ (s.wrap width .ellipsis).map (Styled.fill width), line.Readable := by
    intro line hline
    obtain ⟨part, hpart, rfl⟩ := List.mem_map.mp hline
    exact (hs.wrap width .ellipsis part hpart).reword _
  unfold Styled.column
  split
  · exact ⟨_, rfl⟩
  · rw [Styled.rows_of_readable hfilled]
    exact ⟨_, rfl⟩

theorem titleLine (hs : s.Readable) : (titleLine s).Readable := by
  have hplain (text : List Char) : Styled.Readable ⟨text, []⟩ := by simp [Readable]
  have hbar (count : Nat) : Styled.Readable (if count = 0 then ⟨[], []⟩
      else ⟨List.replicate count '─', [{ start := 0, stop := count }]⟩) := by
    split
    · exact hplain []
    · intro p hp
      rw [List.mem_singleton.mp hp]
      rfl
  unfold Console.titleLine
  extract_lets flat spaced text excess bar whole
  have htext : text.Readable :=
    (((hs.reword _).expandTabs.indent 1 ' ').append (hplain [' '])).cut innerWidth .fold
  exact ((((hbar _).append htext).append (hbar _)).reword _).cut innerWidth .fold

end Styled.Readable

/-- Readable texts have a box. -/
theorem exists_panelRows {title : Styled} {entries : List (Styled × Styled)}
    (htitle : title.Readable) (hentries : ∀ e ∈ entries, e.1.Readable ∧ e.2.Readable) :
    ∃ rows, panelRows title entries = .ok rows := by
  have hrows : ∀ e ∈ entries, ∃ rows, entryRows (columnWidths entries) e = .ok rows ∧ True := by
    intro e he
    obtain ⟨label, hlabel⟩ := (hentries e he).1.exists_column ((columnWidths entries).1 - 2)
    obtain ⟨value, hvalue⟩ := (hentries e he).2.exists_column (columnWidths entries).2
    unfold entryRows
    rw [hlabel]
    simp only [bind, Except.bind, hvalue]
    exact ⟨_, rfl, trivial⟩
  have htop : Styled.rows [titleLine title] = .ok [(titleLine title).pieces] :=
    Styled.rows_of_readable (by simpa using htitle.titleLine)
  unfold panelRows
  refine exists_bind (exists_mapM hrows) fun body _ => ?_
  simp only [bind, Except.bind, htop]
  exact ⟨_, rfl⟩

end DeployOptions.Console

namespace DeployOptions.Notice
open Console

/-- Plain text has a readable text. -/
private theorem exists_styled {text : String} (h : isPlain text.toList = true) :
    ∃ s, (styledText text.toList).mapError Failure.markup = .ok s ∧ s.Readable := by
  have hsegments : ∀ g ∈ [Segment.plain text.toList], g.WellFormed := by
    intro g hg
    rw [List.mem_singleton.mp hg]
    exact h
  obtain ⟨s, hs, hreadable⟩ := styledText_segments hsegments
  rw [List.flatMap_singleton, Segment.markup] at hs
  exact ⟨s, by rw [hs]; rfl, hreadable⟩

/-- A panel of plain texts has rows. -/
private theorem exists_rows_panel {title : String} {rows : List (String × Value)}
    (htitle : isPlain title.toList = true)
    (hrows : ∀ r ∈ rows, isPlain (r.1 ++ ":").toList = true ∧
      ∃ s, r.2 = .str s ∧ isPlain s.toList = true) :
    ∃ printed, Notice.panelRows title rows = .ok printed := by
  have hrenderable : unrenderable? rows = none := by
    rw [unrenderable?, Option.map_eq_none_iff, List.find?_eq_none]
    intro r hr
    obtain ⟨-, s, hs, -⟩ := hrows r hr
    simp [hs]
  have hsegments : ∀ g ∈ [Segment.styled "bold" title.toList], g.WellFormed := by
    intro g hg
    rw [List.mem_singleton.mp hg]
    exact ⟨isTagStyle_bold, htitle⟩
  obtain ⟨top, htop, hbold⟩ := styledText_segments hsegments
  rw [List.flatMap_singleton, ← toList_tagged] at htop
  unfold Notice.panelRows
  simp only [hrenderable]
  -- the title, the labels and the values are read in this order
  refine exists_bind (P := Styled.Readable) ⟨top, by rw [htop]; rfl, hbold⟩ fun top hbold => ?_
  refine exists_bind (exists_mapM (P := Styled.Readable) fun r hr => exists_styled (hrows r hr).1)
    fun labels hlabel => ?_
  refine exists_bind (exists_mapM (P := Styled.Readable) fun r hr => ?_) fun values hvalue => ?_
  · obtain ⟨-, s, hs, hplain⟩ := hrows r hr
    rw [hs]
    exact exists_styled hplain
  · obtain ⟨printed, hprinted⟩ := exists_panelRows hbold fun e he =>
      ⟨hlabel e.1 (List.of_mem_zip he).1, hvalue e.2 (List.of_mem_zip he).2⟩
    exact ⟨printed, by rw [hprinted]; rfl⟩

/-- A panel of plain texts is always printed. -/
theorem lines_panel {title : String} {rows : List (String × Value)}
    (htitle : isPlain title.toList = true)
    (hrows : ∀ r ∈ rows, isPlain (r.1 ++ ":").toList = true ∧
      ∃ s, r.2 = .str s ∧ isPlain s.toList = true) :
    ∃ lines, (Notice.panel title rows).lines = .ok lines := by
  obtain ⟨printed, hprinted⟩ := exists_rows_panel htitle hrows
  exact ⟨_, by rw [lines, hprinted]; rfl⟩

end DeployOptions.Notice
