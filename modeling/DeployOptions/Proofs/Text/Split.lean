import DeployOptions.Text.Split

/-! Cutting a text at its first or last separator. -/
namespace DeployOptions.Text
variable {c : Char} {s r t : List Char}

theorem cutFirst_of_not_mem (h : c ∉ s) : cutFirst c s = (s, none) := by
  induction s with
  | nil => rfl
  | cons x s ih =>
    obtain ⟨hx, hs⟩ := not_or.mp (mt List.mem_cons.mpr h)
    rw [cutFirst, if_neg (Ne.symm hx), ih hs]

/-- The first separator is the one behind a text that holds none. -/
theorem cutFirst_append (h : c ∉ s) (r : List Char) : cutFirst c (s ++ c :: r) = (s, some r) := by
  induction s with
  | nil => rw [List.nil_append, cutFirst, if_pos rfl]
  | cons x s ih =>
    obtain ⟨hx, hs⟩ := not_or.mp (mt List.mem_cons.mpr h)
    rw [List.cons_append, cutFirst, if_neg (Ne.symm hx), ih hs]

/-- A front without a separator is no matter. -/
theorem cutFirst_append_of_not_mem (h : c ∉ s) (r : List Char) :
    cutFirst c (s ++ r) = (s ++ (cutFirst c r).1, (cutFirst c r).2) := by
  induction s with
  | nil => rfl
  | cons x s ih =>
    obtain ⟨hx, hs⟩ := not_or.mp (mt List.mem_cons.mpr h)
    rw [List.cons_append, cutFirst, if_neg (Ne.symm hx), ih hs]
    rfl

theorem not_mem_cutFirst (c : Char) (s : List Char) : c ∉ (cutFirst c s).1 := by
  induction s with
  | nil => exact List.not_mem_nil
  | cons x s ih =>
    rw [cutFirst]
    split
    · exact List.not_mem_nil
    · next hx => exact List.not_mem_cons_of_ne_of_not_mem (Ne.symm hx) ih

/-- What follows another separator makes no difference to the first text. -/
theorem cutFirst_append_self (s r : List Char) :
    (cutFirst c (s ++ c :: r)).1 = (cutFirst c s).1 := by
  induction s with
  | nil => simp [cutFirst]
  | cons x s ih =>
    rw [List.cons_append, cutFirst, cutFirst]
    split
    · rfl
    · exact congrArg (x :: ·) ih

theorem cutLast_of_not_mem (h : c ∉ s) : cutLast c s = none := by
  induction s with
  | nil => rfl
  | cons x s ih =>
    obtain ⟨hx, hs⟩ := not_or.mp (mt List.mem_cons.mpr h)
    rw [cutLast, ih hs]
    simp only [if_neg (Ne.symm hx)]

theorem not_mem_of_cutLast_eq_none (h : cutLast c s = none) : c ∉ s := by
  induction s with
  | nil => exact List.not_mem_nil
  | cons x s ih =>
    rw [cutLast] at h
    cases hcut : cutLast c s with
    | some cut =>
      rw [hcut] at h
      cases h
    | none =>
      rw [hcut] at h
      simp only at h
      split at h
      · cases h
      · next hx => exact List.not_mem_cons_of_ne_of_not_mem (Ne.symm hx) (ih hcut)

/-- The last separator is the one before a text that holds none. -/
theorem cutLast_append (s : List Char) (h : c ∉ r) : cutLast c (s ++ c :: r) = some (s, r) := by
  induction s with
  | nil =>
    rw [List.nil_append, cutLast, cutLast_of_not_mem h]
    simp
  | cons x s ih => rw [List.cons_append, cutLast, ih]

/-- A text that has been cut at its first separator is what stands on both sides of it. -/
theorem eq_of_cutFirst (h : cutFirst c s = (r, some t)) : s = r ++ c :: t ∧ c ∉ r := by
  induction s generalizing r with
  | nil => cases h
  | cons x s ih =>
    rw [cutFirst] at h
    split at h
    · next hx =>
      cases h
      exact ⟨by rw [hx]; rfl, List.not_mem_nil⟩
    · next hx =>
      generalize hcut : cutFirst c s = cut at h
      obtain ⟨before, after⟩ := cut
      cases h
      obtain ⟨rfl, hmem⟩ := ih hcut
      exact ⟨rfl, List.not_mem_cons_of_ne_of_not_mem (Ne.symm hx) hmem⟩

theorem eq_of_cutLast (h : cutLast c s = some (r, t)) : s = r ++ c :: t := by
  induction s generalizing r with
  | nil => cases h
  | cons x s ih =>
    rw [cutLast] at h
    cases hcut : cutLast c s with
    | some cut =>
      rw [hcut] at h
      cases h
      rw [ih hcut]
      rfl
    | none =>
      rw [hcut] at h
      simp only at h
      split at h
      · next hx =>
        cases h
        rw [hx]
        rfl
      · cases h

/-- No separator stands behind the last one. -/
theorem not_mem_of_cutLast (h : cutLast c s = some (r, t)) : c ∉ t := by
  induction s generalizing r with
  | nil => cases h
  | cons x s ih =>
    rw [cutLast] at h
    cases hcut : cutLast c s with
    | some cut =>
      rw [hcut] at h
      cases h
      exact ih hcut
    | none =>
      rw [hcut] at h
      simp only at h
      split at h
      · cases h
        exact not_mem_of_cutLast_eq_none hcut
      · cases h

theorem isPrefix_cutFirst (c : Char) (s : List Char) : (cutFirst c s).1 <+: s := by
  induction s with
  | nil => exact List.nil_prefix
  | cons x s ih =>
    rw [cutFirst]
    split
    · exact List.nil_prefix
    · exact (List.prefix_cons_inj x).mpr ih

/-- What stands behind a separator, if there is one, ends the text. -/
theorem isSuffix_cutFirst (c : Char) (s : List Char) : (cutFirst c s).2.getD [] <:+ s := by
  cases hcut : cutFirst c s with
  | mk r after =>
    cases after with
    | none => exact List.nil_suffix
    | some t =>
      rw [(eq_of_cutFirst hcut).1]
      exact (List.suffix_cons c t).trans (List.suffix_append r (c :: t))

end DeployOptions.Text
