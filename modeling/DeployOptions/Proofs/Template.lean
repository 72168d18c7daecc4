import DeployOptions.Template

/-! A template as a function of the value of one hole: the texts between its occurrences are
fixed. -/
namespace DeployOptions.Template

/-- The texts between the holes of one name, with the values of all others put in. A template that
cannot be filled has none. -/
def blocks? (name : String) (value? : String → Option (List Char)) :
    List (Nat × Piece) → Option (List (List Char))
  | [] => some [[]]
  | (_, .literal c) :: r => (blocks? name value? r).map (List.modifyHead (c :: ·))
  | (_, .hole n) :: r =>
    if name = String.ofList n then (blocks? name value? r).map ([] :: ·)
    else (value? (String.ofList n)).bind fun v =>
      (blocks? name value? r).map (List.modifyHead (v ++ ·))
  | (_, .stray) :: _ => none

theorem intercalate_nil_cons {blocks : List (List Char)} (h : blocks ≠ []) (a : List Char) :
    a.intercalate ([] :: blocks) = a ++ a.intercalate blocks := by
  obtain ⟨s, r, rfl⟩ := List.exists_cons_of_ne_nil h
  rw [List.intercalate_cons_cons, List.nil_append]

theorem intercalate_modifyHead {blocks : List (List Char)} (h : blocks ≠ []) (a v : List Char) :
    a.intercalate (blocks.modifyHead (v ++ ·)) = v ++ a.intercalate blocks := by
  obtain ⟨s, r, rfl⟩ := List.exists_cons_of_ne_nil h
  cases r with
  | nil => simp [List.intercalate_singleton]
  | cons t r => simp [List.intercalate_cons_cons]

variable {name : String} {value? : String → Option (List Char)} {pieces : List (Nat × Piece)}
  {blocks : List (List Char)}

/-- A filled template is its fixed texts with the value of the hole between them. -/
theorem fillPieces_eq_intercalate (h : blocks? name value? pieces = some blocks)
    (template a : List Char) :
    blocks ≠ [] ∧
      fillPieces template (fun n => if name = n then some a else value? n) pieces =
        .ok (a.intercalate blocks) := by
  induction pieces generalizing blocks with
  | nil =>
    cases h
    exact ⟨List.cons_ne_nil _ _, rfl⟩
  | cons e pieces ih =>
    obtain ⟨position, piece⟩ := e
    cases piece with
    | literal c =>
      obtain ⟨rest, hrest, rfl⟩ := Option.map_eq_some_iff.mp h
      obtain ⟨hne, hfill⟩ := ih hrest
      refine ⟨by simpa [List.modifyHead_eq_nil_iff] using hne, ?_⟩
      rw [fillPieces, hfill]
      exact congrArg Except.ok (intercalate_modifyHead hne a [c]).symm
    | hole n =>
      rw [blocks?] at h
      rw [fillPieces]
      by_cases hn : name = String.ofList n
      · rw [if_pos hn] at h ⊢
        obtain ⟨rest, hrest, rfl⟩ := Option.map_eq_some_iff.mp h
        obtain ⟨hne, hfill⟩ := ih hrest
        refine ⟨List.cons_ne_nil _ _, ?_⟩
        simp only [hfill, Except.map]
        exact congrArg Except.ok (intercalate_nil_cons hne a).symm
      · rw [if_neg hn] at h ⊢
        obtain ⟨v, hv, h⟩ := Option.bind_eq_some_iff.mp h
        obtain ⟨rest, hrest, rfl⟩ := Option.map_eq_some_iff.mp h
        obtain ⟨hne, hfill⟩ := ih hrest
        refine ⟨by simpa [List.modifyHead_eq_nil_iff] using hne, ?_⟩
        simp only [hv, hfill, Except.map]
        exact congrArg Except.ok (intercalate_modifyHead hne a v).symm
    | stray => cases h

end DeployOptions.Template
