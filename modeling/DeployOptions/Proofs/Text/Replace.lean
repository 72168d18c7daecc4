import DeployOptions.Text.Split
import Mathlib.Data.List.Infix

/-! Replacing a text inside one that is put together from others: an occurrence never reaches over
a character that it does not hold. So replacing it by other characters leaves none. -/
namespace DeployOptions.Text
variable {old new s t : List Char} {c : Char}

theorem replaceFrom_eq_drop (old new : List Char) (skip : Nat) (s : List Char) :
    replaceFrom old new skip s = replaceAll old new (s.drop skip) := by
  induction s generalizing skip with
  | nil => cases skip <;> rfl
  | cons x s ih =>
    cases skip with
    | zero => rfl
    | succ skip => exact ih skip

theorem not_prefix_cons (hold : old ≠ []) (hc : c ∉ old) : ¬ old <+: c :: s := by
  obtain ⟨x, rest, rfl⟩ := List.exists_cons_of_ne_nil hold
  rw [List.cons_prefix_cons]
  exact fun h => hc (h.1 ▸ List.mem_cons_self)

/-- An occurrence at the front gives way, and the work goes on behind it. -/
theorem replaceAll_append_self (hold : old ≠ []) (new s : List Char) :
    replaceAll old new (old ++ s) = new ++ replaceAll old new s := by
  obtain ⟨x, rest, rfl⟩ := List.exists_cons_of_ne_nil hold
  rw [replaceAll, List.cons_append, replaceFrom, if_pos (by simp), replaceFrom_eq_drop]
  simp

theorem replaceAll_cons (h : ¬ old <+: c :: s) :
    replaceAll old new (c :: s) = c :: replaceAll old new s := by
  rw [← List.isPrefixOf_iff_prefix] at h
  rw [replaceAll, replaceFrom, if_neg h, replaceAll]

/-- A text is searched by passing over an occurrence as a whole, and any other character by
itself. -/
@[elab_as_elim]
theorem replaceAll_induct {motive : List Char → Prop} (hold : old ≠ []) (nil : motive [])
    (occurrence : ∀ rest, motive rest → motive (old ++ rest))
    (other : ∀ x s, ¬ old <+: x :: s → motive s → motive (x :: s)) (s : List Char) : motive s := by
  induction h : s.length using Nat.strong_induction_on generalizing s with
  | _ n ih =>
    cases s with
    | nil => exact nil
    | cons x s =>
      by_cases hstarts : old <+: x :: s
      · obtain ⟨rest, hrest⟩ := hstarts
        have hlength : rest.length < n := by
          have := congrArg List.length hrest
          have := List.length_pos_iff.mpr hold
          simp only [List.length_append] at *
          omega
        rw [← hrest]
        exact occurrence rest (ih _ hlength rest rfl)
      · have hlength : s.length < n := by
          simp only [List.length_cons] at h
          omega
        exact other x s hstarts (ih _ hlength s rfl)

/-- Where the text does not occur nothing changes. -/
theorem replaceAll_of_not_infix (h : ¬ old <:+: s) : replaceAll old new s = s := by
  induction s with
  | nil => rfl
  | cons x s ih =>
    rw [List.infix_cons_iff, not_or] at h
    rw [replaceAll_cons h.1, ih h.2]

/-- A text that shares no character with what is put in stands at the front only where it did. -/
theorem prefix_of_prefix_replaceAll {p : List Char} (hnew : new ≠ []) (hp : ∀ c ∈ new, c ∉ p)
    (h : p <+: replaceAll old new s) : p <+: s := by
  induction p generalizing s with
  | nil => exact List.nil_prefix
  | cons c p ih =>
    cases s with
    | nil => exact h
    | cons x s =>
      by_cases hstarts : old <+: x :: s
      · obtain ⟨y, rest, rfl⟩ := List.exists_cons_of_ne_nil hnew
        rw [replaceAll, replaceFrom, if_pos (List.isPrefixOf_iff_prefix.mpr hstarts),
          List.cons_append] at h
        exact absurd h (not_prefix_cons (List.cons_ne_nil c p) (hp y List.mem_cons_self))
      · rw [replaceAll_cons hstarts, List.cons_prefix_cons] at h
        rw [List.cons_prefix_cons]
        exact ⟨h.1, ih (fun d hd => mt (List.mem_cons_of_mem c) (hp d hd)) h.2⟩

/-- Behind characters that it does not hold, a text occurs in what follows them. -/
theorem infix_of_infix_append {p : List Char} (hne : p ≠ []) (hp : ∀ c ∈ s, c ∉ p)
    (h : p <:+: s ++ t) : p <:+: t := by
  induction s with
  | nil => exact h
  | cons x s ih =>
    rw [List.cons_append] at h
    rcases List.infix_cons_iff.mp h with hfront | hbehind
    · exact absurd hfront (not_prefix_cons hne (hp x List.mem_cons_self))
    · exact ih (fun c hc => hp c (List.mem_cons_of_mem x hc)) hbehind

/-- What shares no character with the text it replaces leaves no occurrence of it, not even one
that is put together from what stood on both sides. -/
theorem not_infix_replaceAll (hold : old ≠ []) (hnew : new ≠ []) (hfree : ∀ c ∈ new, c ∉ old)
    (s : List Char) : ¬ old <:+: replaceAll old new s := by
  induction s using replaceAll_induct hold with
  | nil => exact fun hinfix => hold (List.infix_nil.mp hinfix)
  | occurrence rest ih =>
    rw [replaceAll_append_self hold]
    exact mt (infix_of_infix_append hold hfree) ih
  | other x s hstarts ih =>
    rw [replaceAll_cons hstarts, List.infix_cons_iff, ← replaceAll_cons hstarts]
    rintro (hfront | hbehind)
    · exact hstarts (prefix_of_prefix_replaceAll hnew hfree hfront)
    · exact ih hbehind

/-- An occurrence at the front ends before a character that it does not hold. -/
theorem prefix_of_prefix_append_cons (hc : c ∉ old) (h : old <+: s ++ c :: t) : old <+: s := by
  rcases List.prefix_or_prefix_of_prefix h (List.prefix_append s (c :: t)) with hs | ⟨rest, rfl⟩
  · exact hs
  · rw [List.prefix_append_right_inj] at h
    cases rest with
    | nil => simp
    | cons x rest =>
      rw [List.cons_prefix_cons] at h
      exact absurd (List.mem_append_right s (h.1 ▸ List.mem_cons_self)) hc

/-- A character that the text does not hold parts what is searched. -/
theorem replaceAll_append_cons (hold : old ≠ []) (hc : c ∉ old) (s t : List Char) :
    replaceAll old new (s ++ c :: t) = replaceAll old new s ++ c :: replaceAll old new t := by
  induction s using replaceAll_induct hold with
  | nil => exact replaceAll_cons (not_prefix_cons hold hc)
  | occurrence rest ih =>
    rw [List.append_assoc, replaceAll_append_self hold, replaceAll_append_self hold, ih,
      List.append_assoc]
  | other x s hstarts ih =>
    have hlonger : ¬ old <+: x :: s ++ c :: t := mt (prefix_of_prefix_append_cons hc) hstarts
    rw [List.cons_append] at hlonger ⊢
    rw [replaceAll_cons hlonger, replaceAll_cons hstarts, ih, List.cons_append]

theorem replaceAll_append_of_not_mem (hold : old ≠ []) (hc : c ∉ old) (s t : List Char) :
    replaceAll old new (s ++ c :: t) = replaceAll old new s ++ replaceAll old new (c :: t) := by
  have hrest : replaceAll old new (c :: t) = c :: replaceAll old new t :=
    replaceAll_append_cons hold hc [] t
  rw [replaceAll_append_cons hold hc, hrest]

/-- A text that ends in such a character is searched by itself. -/
theorem replaceAll_append_of_getLast? (hold : old ≠ []) (hs : ∀ c ∈ s.getLast?, c ∉ old)
    (t : List Char) : replaceAll old new (s ++ t) = replaceAll old new s ++ replaceAll old new t := by
  rcases List.eq_nil_or_concat s with rfl | ⟨front, c, rfl⟩
  · rfl
  · have hc : c ∉ old := hs c (by simp)
    rw [List.concat_append, replaceAll_append_cons hold hc, List.concat_eq_append,
      replaceAll_append_cons hold hc front []]
    simp [replaceAll, replaceFrom]

/-- Blocks that a text can be put between so that no occurrence of `old` reaches over their ends,
and none is in them. -/
def fenced (old : List Char) : List (List Char) → Bool
  | [] => true
  | [s] => ¬ old <:+: s
  | s :: t :: r =>
    (¬ old <:+: s) && s.getLast?.all (· ∉ old) && t.head?.any (· ∉ old) && fenced old (t :: r)

theorem intercalate_cons_of_head? (h : s.head? = some c) (a : List Char) (r : List (List Char)) :
    ∃ more, a.intercalate (s :: r) = c :: more := by
  obtain ⟨rest, rfl⟩ := List.head?_eq_some_iff.mp h
  cases r with
  | nil => exact ⟨rest, List.intercalate_singleton⟩
  | cons u r => exact ⟨_, List.intercalate_cons_cons⟩

/-- Of a text that stands between such blocks, only itself is changed. -/
theorem replaceAll_intercalate (hold : old ≠ []) {blocks : List (List Char)}
    (h : fenced old blocks = true) (new a : List Char) :
    replaceAll old new (a.intercalate blocks) = (replaceAll old new a).intercalate blocks := by
  induction blocks with
  | nil => rfl
  | cons s blocks ih =>
    cases blocks with
    | nil =>
      rw [List.intercalate_singleton, List.intercalate_singleton]
      exact replaceAll_of_not_infix (by simpa [fenced] using h)
    | cons t r =>
      simp only [fenced, Bool.and_eq_true, decide_eq_true_eq, Option.all_eq_true] at h
      obtain ⟨⟨⟨hfree, hlast⟩, hhead⟩, hrest⟩ := h
      rw [List.intercalate_cons_cons, List.intercalate_cons_cons, List.append_assoc,
        replaceAll_append_of_getLast? hold hlast, replaceAll_of_not_infix hfree]
      rw [Option.any_eq_true] at hhead
      obtain ⟨c, hhead, hc⟩ := hhead
      obtain ⟨more, hmore⟩ := intercalate_cons_of_head? hhead a r
      rw [hmore, replaceAll_append_of_not_mem hold (of_decide_eq_true hc), ← hmore, ih hrest,
        List.append_assoc]

end DeployOptions.Text
