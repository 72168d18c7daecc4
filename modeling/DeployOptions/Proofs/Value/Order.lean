import DeployOptions.Value.Shown

/-! Which entries can be sorted by their keys: those whose keys stand on one scale. -/
namespace DeployOptions.Value

/-- The scales on which values are ordered. Two values on different scales have no common order. -/
inductive Scale
  | number
  | text
  | bytes
  | date
  | timestamp (hasOffset : Bool)
deriving DecidableEq, Repr

def scale? : Value → Option Scale
  | .bool _ | .int _ | .float _ => some .number
  | .str _ => some .text
  | .bytes _ => some .bytes
  | .date _ => some .date
  | .timestamp t => some (.timestamp t.offset.isSome)
  | _ => none

/-- Entries that have an order by key. A single entry needs none. -/
def HaveOrder (entries : List (Value × Value)) : Prop :=
  entries.length ≤ 1 ∨ ∃ s, ∀ e ∈ entries, e.1.scale? = some s

theorem areComparable_iff {a b : Value} :
    areComparable a b = true ↔ ∃ s, a.scale? = some s ∧ b.scale? = some s := by
  cases a <;> cases b <;> simp [areComparable, order?, integer?, scale?]
  case timestamp.timestamp => exact eq_comm

section Sorted

variable {entries sorted : List (Value × Value)}

/-- Sorting is possible exactly for entries that have an order. -/
theorem exists_sortedByKey?_iff : (∃ sorted, sortedByKey? entries = some sorted) ↔
    HaveOrder entries := by
  match entries with
  | [] | [_] => exact iff_of_true ⟨_, rfl⟩ (.inl (by simp))
  | e :: f :: r =>
    have hall : ((f :: r).all fun g => areComparable e.1 g.1) = true ↔
        HaveOrder (e :: f :: r) := by
      simp only [List.all_eq_true, areComparable_iff]
      constructor
      · intro h
        obtain ⟨s, hs, -⟩ := h f List.mem_cons_self
        refine .inr ⟨s, List.forall_mem_cons.mpr ⟨hs, fun g hg => ?_⟩⟩
        obtain ⟨s', hs', hg⟩ := h g hg
        exact hg.trans (hs'.symm.trans hs)
      · rintro (hshort | ⟨s, hs⟩) g hg
        · simp at hshort
        · exact ⟨s, hs e List.mem_cons_self, hs g (List.mem_cons_of_mem e hg)⟩
    rw [← hall, sortedByKey?]
    split
    · next h => exact iff_of_true ⟨_, rfl⟩ h
    · next h => exact iff_of_false (by rintro ⟨_, hsorted⟩; cases hsorted) h

private theorem insertSorted_perm (sorted : List (Value × Value)) (e : Value × Value) :
    (insertSorted sorted e).Perm (e :: sorted) := by
  unfold insertSorted
  extract_lets k
  calc (sorted.take k ++ e :: sorted.drop k).Perm (e :: (sorted.take k ++ sorted.drop k)) :=
        List.perm_middle
    _ = e :: sorted := by rw [List.take_append_drop]

private theorem foldl_insertSorted_perm (rest sorted : List (Value × Value)) :
    (rest.foldl insertSorted sorted).Perm (sorted ++ rest) := by
  induction rest generalizing sorted with
  | nil => rw [List.append_nil]; rfl
  | cons e rest ih =>
    exact (ih _).trans (((insertSorted_perm sorted e).append_right rest).trans
      List.perm_middle.symm)

/-- Sorting neither adds nor loses an entry. -/
theorem sortedByKey?_perm (h : sortedByKey? entries = some sorted) : sorted.Perm entries := by
  match entries with
  | [] | [_] =>
    cases h
    rfl
  | e :: f :: r =>
    rw [sortedByKey?] at h
    split at h
    · -- the run in front is taken as it is or turned round, and either way the rest is put into it
      extract_lets falling n run at h
      have hrun : run.Perm ((e :: f :: r).take n) := by
        unfold run
        split
        · exact List.reverse_perm _
        · rfl
      cases h
      refine (foldl_insertSorted_perm _ _).trans ((hrun.append_right _).trans ?_)
      rw [List.take_append_drop]
    · cases h

end Sorted

theorem isWritable_map (entries : List (Value × Value)) :
    (Value.map entries).isWritable = entries.all fun e => e.1.isWritable && e.2.isWritable := by
  rw [isWritable]
  induction entries with
  | nil => rfl
  | cons e entries ih => rw [areEntriesWritable, ih, List.all_cons]

/-- Whether entries can be written does not depend on their order. -/
theorem isWritable_perm {entries entries' : List (Value × Value)} (h : entries.Perm entries') :
    (Value.map entries).isWritable = (Value.map entries').isWritable := by
  rw [isWritable_map, isWritable_map, h.all_eq]

end DeployOptions.Value
