import DeployOptions.Console.Markup
import DeployOptions.Proofs.Text.Split

/-! Markup made of plain text and of text between a tag and its closing tag is always printed, and
the only styles in it are those of its tags. -/
namespace DeployOptions.Console

/-- Text that means nothing but itself: no bracket opens in it, and no backslash at its end can
touch a tag behind it. -/
def isPlain (t : List Char) : Bool := '[' ∉ t && t.getLast? ≠ some '\\'

theorem isPlain_iff {t : List Char} : isPlain t = true ↔ '[' ∉ t ∧ t.getLast? ≠ some '\\' := by
  simp [isPlain]

/-- A style that a tag can name: the tag is read as one, its name is its canonical form, and it
holds no number that cannot be read. -/
structure IsTagStyle (style : String) : Prop where
  begins : style.toList.head?.any beginsTag = true
  body : style.toList.all (fun c => c ≠ '[' && c ≠ ']' && c ≠ '=') = true
  opening : style.toList.head?.all (fun c => c ≠ '/' && c ≠ '@') = true
  stripped : Text.strip style.toList = style.toList
  canonical : (normalizeStyle style.toList).toOption = some style
  readable : styleFault? style.toList = none

inductive Segment
  | plain (t : List Char)
  | styled (style : String) (t : List Char)

namespace Segment

def markup : Segment → List Char
  | .plain t => t
  | .styled style t => '[' :: (style.toList ++ ']' :: (t ++ '[' :: '/' :: (style.toList ++ [']'])))

/-- Segments whose texts are plain and whose tags are read as such. -/
def WellFormed : Segment → Prop
  | .plain t => isPlain t = true
  | .styled style t => IsTagStyle style ∧ isPlain t = true

end Segment

private theorem tag?_of_head {s : List Char} (h : s.head? ≠ some '[') : tag? s = none := by
  unfold tag?
  split
  · exact absurd rfl h
  · rfl

private theorem drop_takeWhile (p : Char → Bool) (s : List Char) :
    s.drop (s.takeWhile p).length = s.dropWhile p := by
  induction s with
  | nil => rfl
  | cons c s ih =>
    cases hp : p c with
    | true => simpa [hp] using ih
    | false => simp [hp]

/-- Behind the backslashes that a text without brackets begins with stands more of that text, if
there is any, and no tag. -/
private theorem no_tag_in_text {t : List Char} (hbracket : '[' ∉ t) (hother : ∃ x ∈ t, x ≠ '\\')
    (r : List Char) :
    tag? ((t ++ r).drop ((t ++ r).takeWhile (· = '\\')).length) = none := by
  have hrest : t.dropWhile (· = '\\') ≠ [] := by
    intro he
    obtain ⟨x, hx, hne⟩ := hother
    have hjoin : t.takeWhile (· = '\\') ++ t.dropWhile (· = '\\') = t :=
      List.takeWhile_append_dropWhile
    have hwhile : (t.takeWhile (· = '\\')).all (· = '\\') = true := List.all_takeWhile
    rw [he, List.append_nil] at hjoin
    rw [hjoin, List.all_eq_true] at hwhile
    exact hne (of_decide_eq_true (hwhile x hx))
  rw [drop_takeWhile, List.dropWhile_append]
  split
  · next he => exact absurd (List.isEmpty_iff.mp he) hrest
  · obtain ⟨x, rest, hx⟩ := List.exists_cons_of_ne_nil hrest
    apply tag?_of_head
    rw [hx]
    simp only [List.cons_append, List.head?_cons, ne_eq, Option.some.injEq]
    rintro rfl
    apply hbracket
    exact (List.dropWhile_sublist _).subset (by rw [hx]; exact List.mem_cons_self)

private theorem no_tag_in_plain {c : Char} {t : List Char} (h : isPlain (c :: t) = true)
    (r : List Char) :
    tag? ((c :: t ++ r).drop ((c :: t ++ r).takeWhile (· = '\\')).length) = none := by
  obtain ⟨hbracket, hlast⟩ := isPlain_iff.mp h
  refine no_tag_in_text hbracket ⟨(c :: t).getLast (List.cons_ne_nil c t), List.getLast_mem _, ?_⟩ r
  rintro he
  exact hlast (by rw [List.getLast?_eq_some_getLast (List.cons_ne_nil c t), he])

private theorem isPlain_tail {c : Char} {t : List Char} (h : isPlain (c :: t) = true) :
    isPlain t = true := by
  obtain ⟨hbracket, hlast⟩ := isPlain_iff.mp h
  refine isPlain_iff.mpr ⟨fun hm => hbracket (List.mem_cons_of_mem c hm), ?_⟩
  cases t with
  | nil => simp
  | cons d t => simpa [List.getLast?_cons_cons] using hlast

/-- Plain text goes to the text that is being read, whatever stands behind it. -/
private theorem itemsFrom_plain (position : Nat) (held t r : List Char)
    (h : isPlain t = true) :
    itemsFrom position held (t ++ r) = itemsFrom (position + t.length) (held ++ t) r := by
  induction t generalizing position held with
  | nil => simp
  | cons c t ih =>
    have hnone := no_tag_in_plain h r
    rw [List.cons_append, itemsFrom.eq_def]
    simp only [← List.cons_append]
    split
    · next heq =>
      rw [hnone] at heq
      cases heq
    · rw [ih _ _ (isPlain_tail h), List.append_assoc, List.singleton_append, List.length_cons,
        Nat.add_assoc, Nat.add_comm 1]

private theorem tag?_tag {c : Char} {body : List Char} (hc : beginsTag c = true)
    (hbody : body.all (fun x => x ≠ '[' && x ≠ ']') = true) (r : List Char) :
    tag? ('[' :: (c :: body ++ ']' :: r)) = some (c :: body, r) := by
  have htake : tagBody (body ++ ']' :: r) = body := by
    rw [tagBody, List.takeWhile_append_of_pos (by simpa using hbody)]
    simp
  simp [tag?, hc, htake]

/-- A tag ends the text in front of it. -/
private theorem itemsFrom_tag (position : Nat) (held : List Char) {c : Char} {body : List Char}
    (hc : beginsTag c = true) (hbody : body.all (fun x => x ≠ '[' && x ≠ ']') = true)
    (r : List Char) :
    itemsFrom position held ('[' :: (c :: body ++ ']' :: r)) =
      textItem held ++ tagItem position (c :: body) ::
        itemsFrom (position + (c :: body).length + 2) [] r := by
  have htag := tag?_tag hc hbody r
  have hslashes : ('[' :: (c :: body ++ ']' :: r)).takeWhile (· = '\\') = [] := rfl
  rw [itemsFrom.eq_def]
  simp only
  split
  · next heq =>
    rw [hslashes, List.length_nil, List.drop_zero, htag] at heq
    obtain ⟨rfl, rfl⟩ := Prod.mk.inj (Option.some.inj heq)
    simp [textItem]
  · next heq =>
    rw [hslashes, List.length_nil, List.drop_zero, htag] at heq
    cases heq

private theorem renderItems_textItem (done : Styled) (opened : List OpenTag) (held : List Char) :
    ∃ text, ∀ items, renderItems done opened (textItem held ++ items) =
      renderItems { done with text } opened items := by
  cases held with
  | nil => exact ⟨done.text, fun items => rfl⟩
  | cons c t => exact ⟨_, fun items => rfl⟩

namespace IsTagStyle

variable {style : String}

/-- A name in small letters that is no style of the console's own. -/
theorem of_unknown (hbegins : style.toList.head?.any beginsTag = true)
    (hbody : style.toList.all (fun c => c ≠ '[' && c ≠ ']' && c ≠ '=') = true)
    (hopening : style.toList.head?.all (fun c => c ≠ '/' && c ≠ '@') = true)
    (hstripped : Text.strip style.toList = style.toList)
    (hlower : Text.lower style.toList = style.toList)
    (hunknown : (Style.ofName style.toList matches .error .unknown) = true) :
    IsTagStyle style := by
  have hname : Style.ofName style.toList = .error .unknown := by
    split at hunknown
    · assumption
    · cases hunknown
  refine ⟨hbegins, hbody, hopening, hstripped, ?_, ?_⟩
  · rw [normalizeStyle, hname, hstripped, hlower, String.ofList_toList]
    rfl
  · rw [styleFault?, hname]

private theorem all_body (h : IsTagStyle style) :
    style.toList.all (fun c => c ≠ '[' && c ≠ ']') = true := by
  have hbody := h.body
  simp only [List.all_eq_true, Bool.and_eq_true] at hbody ⊢
  exact fun c hc => (hbody c hc).1

private theorem exists_cons (h : IsTagStyle style) : ∃ c body, style.toList = c :: body ∧
    beginsTag c = true ∧ body.all (fun x => x ≠ '[' && x ≠ ']') = true ∧ '=' ∉ style.toList ∧
    c ≠ '/' ∧ c ≠ '@' := by
  obtain ⟨hbegin, hbody, hopen, -, -, -⟩ := h
  generalize style.toList = s at *
  cases s with
  | nil => simp at hbegin
  | cons c body =>
    simp only [List.all_cons, Bool.and_eq_true, List.head?_cons, Option.any_some,
      Option.all_some, decide_eq_true_eq, List.all_eq_true] at *
    refine ⟨c, body, rfl, hbegin, fun x hx => (hbody.2 x hx).1, ?_, hopen.1, hopen.2⟩
    intro hmem
    rcases List.mem_cons.mp hmem with he | he
    · exact hbody.1.2 he.symm
    · exact (hbody.2 _ he).2 rfl

private theorem normalizeStyle_eq (h : IsTagStyle style) :
    normalizeStyle style.toList = .ok style := by
  have hcanonical := h.canonical
  cases he : normalizeStyle style.toList with
  | error f => rw [he] at hcanonical; cases hcanonical
  | ok name => rw [he] at hcanonical; exact congrArg Except.ok (Option.some.inj hcanonical)

/-- An opening tag is waiting to be closed. -/
private theorem renderItems_open (h : IsTagStyle style) (done : Styled) (position : Nat)
    (items : List MarkupItem) :
    renderItems done [] (tagItem position style.toList :: items) =
      renderItems done [⟨done.text.length, style, none⟩] items := by
  obtain ⟨c, body, hs, hc, hbody, heq, hslash, hat⟩ := h.exists_cons
  rw [tagItem, Text.cutFirst_of_not_mem heq]
  simp only [renderItems]
  split
  · next hname =>
    rw [hs] at hname
    exact absurd (List.cons.inj hname).1 hslash
  · rw [h.normalizeStyle_eq]
    rfl

/-- The closing tag closes it. -/
private theorem renderItems_close (h : IsTagStyle style) (done : Styled) (start position : Nat)
    (items : List MarkupItem) :
    renderItems done [⟨start, style, none⟩] (tagItem position ('/' :: style.toList) :: items) =
      renderItems { done with
        spans := done.spans ++ [⟨start, done.text.length, style.toList⟩] } [] items := by
  obtain ⟨c, body, hs, hc, hbody, heq, hslash, hat⟩ := h.exists_cons
  have hempty : style.toList.isEmpty = false := by rw [hs]; rfl
  have hclose (stop : Nat) :
      OpenTag.close stop ⟨start, style, none⟩ = .ok ⟨start, stop, style.toList⟩ := by
    unfold OpenTag.close
    split
    · next hparameter => cases hparameter
    · next hname _ =>
      rw [hs] at hname
      exact absurd (List.cons.inj hname).1 hat
    · simp [OpenTag.span]
  have hcanonical : (normalizeStyle style.toList).mapError MarkupFault.color = .ok style := by
    rw [h.normalizeStyle_eq]
    rfl
  rw [tagItem, Text.cutFirst_of_not_mem (by simpa using heq)]
  simp only [renderItems, h.stripped, hempty, hcanonical, Bool.false_eq_true, if_false]
  simp only [takeNamed, if_true, bind, Except.bind, hclose]

end IsTagStyle

def Styled.Readable (s : Styled) : Prop := ∀ p ∈ s.spans, styleFault? p.style = none

private theorem IsTagStyle.readable_append {style : String} (h : IsTagStyle style)
    {done : Styled} (hdone : done.Readable) (start stop : Nat) :
    Styled.Readable { done with spans := done.spans ++ [⟨start, stop, style.toList⟩] } := by
  intro p hp
  rcases List.mem_append.mp hp with hp | hp
  · exact hdone p hp
  · rw [List.mem_singleton.mp hp]
    exact h.readable

/-- The end of the markup closes what is open. -/
private theorem renderItems_end {done : Styled} {opened : List OpenTag} (position : Nat)
    (held : List Char) (hdone : done.Readable)
    (hopened : ∀ tag ∈ opened, ∀ stop, styleFault? (tag.span stop).style = none) :
    ∃ s, renderItems done opened (itemsFrom position held []) = .ok s ∧ s.Readable := by
  obtain ⟨text, hflush⟩ := renderItems_textItem done opened held
  refine ⟨_, (congrArg (renderItems done opened) ?_).trans (hflush []), ?_⟩
  · simp [itemsFrom]
  · intro p hp
    rw [List.mem_mergeSort, List.mem_reverse] at hp
    rcases List.mem_append.mp hp with hp | hp
    · exact hdone p hp
    · obtain ⟨tag, htag, rfl⟩ := List.mem_map.mp hp
      exact hopened tag htag _

private theorem renderItems_segments {segments : List Segment} {rest : List Char}
    (h : ∀ g ∈ segments, g.WellFormed)
    (hrest : ∀ position held done, done.Readable →
      ∃ s, renderItems done [] (itemsFrom position held rest) = .ok s ∧ s.Readable)
    (position : Nat) (held : List Char) (done : Styled) (hdone : done.Readable) :
    ∃ s, renderItems done []
        (itemsFrom position held (segments.flatMap Segment.markup ++ rest)) = .ok s ∧
      s.Readable := by
  induction segments generalizing position held done with
  | nil => exact hrest position held done hdone
  | cons g segments ih =>
    have ih := ih fun g hg => h g (List.mem_cons_of_mem _ hg)
    have hg := h g List.mem_cons_self
    rw [List.flatMap_cons, List.append_assoc]
    generalize segments.flatMap Segment.markup ++ rest = more at ih ⊢
    cases g with
    | plain t =>
      rw [Segment.markup, itemsFrom_plain position held t _ hg]
      exact ih _ _ _ hdone
    | styled style t =>
      obtain ⟨hstyle, ht⟩ := hg
      obtain ⟨c, body, hs, hc, hbody, -, hslash, -⟩ := hstyle.exists_cons
      obtain ⟨before, hbefore⟩ := renderItems_textItem done [] held
      obtain ⟨inside, hinside⟩ := renderItems_textItem { done with text := before }
        [⟨before.length, style, none⟩] t
      have hall : (c :: body).all (fun x => x ≠ '[' && x ≠ ']') = true := hs ▸ hstyle.all_body
      have hopened := itemsFrom_tag position held hc hbody
        (t ++ '[' :: ('/' :: (c :: body) ++ ']' :: more))
      have hclosed (position : Nat) := itemsFrom_tag (c := '/') position t (by decide) hall more
      have hmarkup : (Segment.styled style t).markup ++ more =
          '[' :: (c :: body ++ ']' :: (t ++ '[' :: ('/' :: (c :: body) ++ ']' :: more))) := by
        simp [Segment.markup, hs]
      rw [hmarkup, hopened, hbefore, ← hs, hstyle.renderItems_open, itemsFrom_plain _ _ _ _ ht,
        List.nil_append, hs, hclosed, hinside, ← hs, hstyle.renderItems_close]
      exact ih _ _ _ (hstyle.readable_append hdone _ _)

/-- Behind text that opens no bracket, a tag is closed, or a backslash has made its closing tag a
text and it ends with the markup. -/
private theorem renderItems_closing {style : String} (hstyle : IsTagStyle style) {t : List Char}
    (ht : '[' ∉ t) (position start : Nat) (held : List Char) (done : Styled)
    (hdone : done.Readable) :
    ∃ s, renderItems done [⟨start, style, none⟩]
        (itemsFrom position held (t ++ '[' :: ('/' :: style.toList ++ [']']))) = .ok s ∧
      s.Readable := by
  have hall := hstyle.all_body
  have hopened : ∀ tag ∈ [OpenTag.mk start style none], ∀ stop,
      styleFault? (tag.span stop).style = none := by
    intro tag htag stop
    rw [List.mem_singleton.mp htag, OpenTag.span, List.append_nil]
    exact hstyle.readable
  have hend (position : Nat) (done : Styled) (hdone : done.Readable) :
      ∃ s, renderItems done [] (itemsFrom position [] []) = .ok s ∧ s.Readable :=
    renderItems_end position [] hdone (by simp)
  induction t generalizing position held with
  | nil =>
    obtain ⟨text, hflush⟩ := renderItems_textItem done [⟨start, style, none⟩] held
    rw [List.nil_append, itemsFrom_tag position held (by decide) hall [], hflush,
      hstyle.renderItems_close]
    exact hend _ _ (hstyle.readable_append hdone _ _)
  | cons c t ih =>
    rw [List.cons_append, itemsFrom.eq_def]
    simp only
    split
    · next body rest heq =>
      -- only backslashes can stand in front of the tag
      have hslashes : ∀ x ∈ c :: t, decide (x = '\\') = true := by
        intro x hx
        by_cases hne : x = '\\'
        · exact decide_eq_true hne
        · rw [← List.cons_append, no_tag_in_text ht ⟨x, hx, hne⟩] at heq
          cases heq
      have htake : (c :: (t ++ '[' :: ('/' :: style.toList ++ [']']))).takeWhile (· = '\\') =
          c :: t := by
        rw [← List.cons_append, List.takeWhile_append_of_pos hslashes]
        simp
      have htag := tag?_tag (c := '/') (by decide) hall []
      rw [htake, ← List.cons_append, List.drop_left, htag] at heq
      obtain ⟨rfl, rfl⟩ := Prod.mk.inj (Option.some.inj heq)
      rw [htake, List.append_assoc, List.append_assoc]
      obtain ⟨before, hbefore⟩ := renderItems_textItem done [⟨start, style, none⟩] held
      obtain ⟨slashes, hkept⟩ := renderItems_textItem { done with text := before }
        [⟨start, style, none⟩] (List.replicate ((c :: t).length / 2) '\\')
      rw [hbefore, hkept]
      split
      · exact renderItems_end _ [] (show ({ done with text := _ } : Styled).Readable from hdone) hopened
      · rw [List.singleton_append, hstyle.renderItems_close]
        exact hend _ _ (hstyle.readable_append hdone _ _)
    · exact ih (fun hm => ht (List.mem_cons_of_mem c hm)) _ _

/-- Markup of plain and of styled segments has a text, and its styles can be read. -/
theorem styledText_segments {segments : List Segment} (h : ∀ g ∈ segments, g.WellFormed) :
    ∃ s, styledText (segments.flatMap Segment.markup) = .ok s ∧ s.Readable := by
  have hend (position : Nat) (held : List Char) (done : Styled) (hdone : done.Readable) :
      ∃ s, renderItems done [] (itemsFrom position held []) = .ok s ∧ s.Readable :=
    renderItems_end position held hdone (by simp)
  have := renderItems_segments h hend 0 [] ⟨[], []⟩ (by simp [Styled.Readable])
  rwa [List.append_nil] at this

/-- The last segment may also end in backslashes, since no more than its closing tag is behind
them. -/
theorem styledText_segments_styled {segments : List Segment} (h : ∀ g ∈ segments, g.WellFormed)
    {style : String} (hstyle : IsTagStyle style) {t : List Char} (ht : '[' ∉ t) :
    ∃ s, styledText (segments.flatMap Segment.markup ++ (Segment.styled style t).markup) = .ok s ∧
      s.Readable := by
  refine renderItems_segments h ?_ 0 [] ⟨[], []⟩ (by simp [Styled.Readable])
  intro position held done hdone
  obtain ⟨c, body, hs, hc, hbody, -, -, -⟩ := hstyle.exists_cons
  obtain ⟨text, hflush⟩ := renderItems_textItem done [] held
  have hopened := itemsFrom_tag position held hc hbody
    (t ++ '[' :: ('/' :: (c :: body) ++ [']']))
  have hmarkup : (Segment.styled style t).markup =
      '[' :: (c :: body ++ ']' :: (t ++ '[' :: ('/' :: (c :: body) ++ [']']))) := by
    simp [Segment.markup, hs]
  rw [hmarkup, hopened, hflush, ← hs, hstyle.renderItems_open]
  exact renderItems_closing hstyle ht _ _ _ _ hdone

end DeployOptions.Console
