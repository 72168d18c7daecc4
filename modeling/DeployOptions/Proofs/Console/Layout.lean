import DeployOptions.Console.Highlight
import DeployOptions.Console.Row
import DeployOptions.Console.Wrap
import DeployOptions.Proofs.Console.Markup

/-! Cutting, wrapping and highlighting a text bring in no style that was not there, so a text whose
styles can be read always has rows. -/
namespace DeployOptions.Console

namespace Span

private theorem within?_style {first last : Nat} {p q : Span} (h : p.within? first last = some q) :
    q.style = p.style := by
  simp only [within?] at h
  split at h
  · rw [← Option.some.inj h]
  · cases h

private theorem upTo?_style {length : Nat} {p q : Span} (h : p.upTo? length = some q) :
    q.style = p.style := by
  unfold upTo? at h
  split at h
  · rw [← Option.some.inj h]
  · cases h

end Span

namespace Styled.Readable

variable {s t : Styled}

/-- A text whose styles all come from a readable one is readable. -/
theorem of_styles (hs : s.Readable) (h : ∀ p ∈ t.spans, ∃ q ∈ s.spans, p.style = q.style) :
    t.Readable := by
  intro p hp
  obtain ⟨q, hq, hstyle⟩ := h p hp
  rw [hstyle]
  exact hs q hq

theorem slice (hs : s.Readable) (first last : Nat) : (s.slice first last).Readable := by
  apply hs.of_styles
  intro p hp
  obtain ⟨q, hq, hwithin⟩ := List.mem_filterMap.mp hp
  exact ⟨q, hq, Span.within?_style hwithin⟩

theorem divide (hs : s.Readable) (positions : List Nat) :
    ∀ part ∈ s.divide positions, part.Readable := by
  unfold Styled.divide
  split
  · intro part hpart
    rw [List.mem_singleton.mp hpart]
    exact hs
  · intro part hpart
    obtain ⟨bounds, -, rfl⟩ := List.mem_map.mp hpart
    exact hs.slice _ _

theorem reword (hs : s.Readable) (text : List Char) : (s.reword text).Readable := by
  unfold Styled.reword
  split
  · apply hs.of_styles
    intro p hp
    obtain ⟨q, hq, hup⟩ := List.mem_filterMap.mp hp
    exact ⟨q, hq, Span.upTo?_style hup⟩
  · exact hs

theorem append (hs : s.Readable) (ht : t.Readable) : (s ++ t).Readable := by
  intro p hp
  rcases List.mem_append.mp hp with hp | hp
  · exact hs p hp
  · obtain ⟨q, hq, rfl⟩ := List.mem_map.mp hp
    exact ht q hq

theorem widen (hs : s.Readable) (count : Nat) : (s.widen count).Readable := by
  apply hs.of_styles
  intro p hp
  obtain ⟨q, hq, rfl⟩ := List.mem_map.mp hp
  refine ⟨q, hq, ?_⟩
  split <;> rfl

theorem joinTabbed {parts : List Styled} (hs : s.Readable) (hparts : ∀ p ∈ parts, p.Readable)
    (column : Nat) : (Styled.joinTabbed column s parts).Readable := by
  induction parts generalizing column s with
  | nil => exact hs
  | cons part parts ih =>
    have hpart := hparts part List.mem_cons_self
    cases parts with
    | nil => exact hs.append hpart
    | cons next parts =>
      exact ih (hs.append ((hpart.reword _).widen _))
        (fun p hp => hparts p (List.mem_cons_of_mem _ hp)) _

theorem expandTabs (hs : s.Readable) : s.expandTabs.Readable := by
  unfold Styled.expandTabs
  split
  · exact joinTabbed (by simp [Readable]) (hs.divide _) 0
  · exact hs

theorem linesFrom (hs : s.Readable) (start : Nat) (texts : List (List Char)) :
    ∀ line ∈ Styled.lines.linesFrom s start texts, line.Readable := by
  induction texts generalizing start with
  | nil => simp [Styled.lines.linesFrom]
  | cons text texts ih =>
    intro line hline
    rcases List.mem_cons.mp hline with rfl | hline
    · exact hs.slice _ _
    · exact ih _ line hline

theorem lines (hs : s.Readable) : ∀ line ∈ s.lines, line.Readable := by
  unfold Styled.lines
  split
  · exact hs.linesFrom _ _
  · intro line hline
    rw [List.mem_singleton.mp hline]
    exact hs

theorem cut (hs : s.Readable) (width : Nat) (overflow : Overflow) :
    (s.cut width overflow).Readable := by
  unfold Styled.cut
  split
  · exact hs
  · cases overflow <;> exact hs.reword _

/-- Wrapping keeps a text readable. -/
theorem wrap (hs : s.Readable) (width : Nat) (overflow : Overflow) :
    ∀ line ∈ s.wrap width overflow, line.Readable := by
  intro part hpart
  obtain ⟨line, hline, hpart⟩ := List.mem_flatMap.mp hpart
  obtain ⟨piece, hpiece, rfl⟩ := List.mem_map.mp hpart
  have hpiece := (hs.lines line hline).expandTabs.divide _ piece hpiece
  exact (hpiece.reword _).cut width overflow

/-- Highlighting keeps a text readable. -/
theorem highlighted (hs : s.Readable) : s.highlighted.Readable := by
  unfold Styled.highlighted
  split
  · intro p hp
    rcases List.mem_append.mp hp with hp | hp
    · obtain ⟨m, -, rfl⟩ := List.mem_map.mp hp
      rfl
    · exact hs p hp
  · exact hs

end Styled.Readable

/-- Readable lines have rows. -/
theorem Styled.rows_of_readable {lines : List Styled} (h : ∀ line ∈ lines, line.Readable) :
    Styled.rows lines = .ok (lines.map Styled.pieces) := by
  have hnone : (lines.flatMap (·.spans)).findSome? (fun p => styleFault? p.style) = none := by
    rw [List.findSome?_eq_none_iff]
    intro p hp
    obtain ⟨line, hline, hp⟩ := List.mem_flatMap.mp hp
    exact h line hline p hp
  rw [Styled.rows, hnone]

end DeployOptions.Console
