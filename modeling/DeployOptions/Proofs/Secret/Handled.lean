import DeployOptions.Proofs.Run.Handled
import DeployOptions.Proofs.Secret.Access
import DeployOptions.Proofs.Secret.Calls

/-! Whatever faults their calls meet, operations on secrets fail with nothing but options errors, as
long as the secret can be asked for and the stored texts are plain ASCII. -/
namespace DeployOptions

/-- The stored texts of some fields of a secret have no other characters than those of ASCII. -/
def Store.IsAscii (k : Value) (secret : String) (fields : List String) (s : Store) : Prop :=
  ∀ field ∈ fields, ∀ text, s.field? k secret field = some text → ∀ c ∈ text.toList, c.toNat < 0x80

namespace Secret
open Run

/-- A secret that can be asked for, with a spinner that can be printed. -/
structure Reachable (k : Value) (secret : String) : Prop where
  writable : k.isWritable = true
  hashable : k.isHashable = true
  printable : ∃ rows, (Notice.reading k.plain secret).lines = .ok rows

variable {k : Value} {secret field : String} {fields : List String}

theorem reachable_str {ns : String} (hns : '[' ∉ ns.toList) (hsecret : '[' ∉ secret.toList) :
    Reachable (.str ns) secret :=
  ⟨rfl, rfl, [], Notice.lines_reading_of_not_mem hns hsecret⟩

/-- A text of ASCII either decodes or is an options error. -/
theorem decode_isHandled {text : String} (htext : ∀ c ∈ text.toList, c.toNat < 0x80) {f : Failure}
    (h : decode field secret k text = .error f) : f.isHandled = true := by
  rw [decode, if_neg (not_foreign_of_ascii htext)] at h
  split at h
  · cases h
    rfl
  · split at h
    · cases h
      rfl
    · cases h

theorem beginCall_handles (pre : Store → Prop) (verb : Verb) (call : Call) :
    (beginCall verb call).Handles pre fun _ => pre := by
  intro w hw
  obtain ⟨fault, faults, hbegin⟩ := exists_beginCall verb call w
  rw [hbegin]
  exact hw

/-- What is read is what is stored, or nothing where the call is told that there is nothing. -/
theorem read?_handles (h : Reachable k secret) (pre : Store → Prop) :
    (read? k secret).Handles pre fun found s =>
      pre s ∧ (found = none ∨ found = s.secret? k secret) := by
  obtain ⟨hwritable, hhashable, rows, hprint⟩ := h
  unfold read?
  rw [hwritable, hhashable]
  refine .bind (.of_say hprint) fun _ => .bind (beginCall_handles pre _ _) fun fault => ?_
  split
  · exact fun w hw => ⟨hw, .inr rfl⟩
  · exact .of_pure fun _ hs => ⟨hs, .inl rfl⟩
  · exact .of_fail _
  · exact .of_fail _

theorem lookup_handles (h : Reachable k secret) (hfield : field ∈ fields) :
    (lookup k secret field).Handles (Store.IsAscii k secret fields)
      fun _ => Store.IsAscii k secret fields := by
  unfold lookup
  refine .bind (read?_handles h _) fun found => ?_
  split
  · exact .of_pure fun _ hs => hs.1
  · next text htext =>
    intro w hw
    obtain ⟨hascii, hfound⟩ := hw
    have hstored : w.store.field? k secret field = some text := by
      rcases hfound with rfl | rfl
      · cases htext
      · exact htext
    have hdecode : (Run.ofExcept (decode field secret k text)).Handles
        (Store.IsAscii k secret fields) fun _ => Store.IsAscii k secret fields :=
      .of_ofExcept (fun _ _ _ hs => hs) fun f =>
        decode_isHandled (hascii field hfield text hstored)
    exact (hdecode.bind fun value => .keep (some value)) w hascii

/-- A new value is stored as a text of ASCII. -/
theorem write_handles (present : Bool) (value : String) :
    (write present k secret field value).Handles (Store.IsAscii k secret fields)
      fun _ => Store.IsAscii k secret fields := by
  have hcreate (s : Store) : (s.createSecret k secret field value).IsAscii k secret fields := by
    intro f _ text htext
    rw [Store.field?_createSecret] at htext
    split at htext
    · cases htext
      exact encode_ascii value
    · cases htext
  have hput (s : Store) (hs : s.IsAscii k secret fields) :
      (s.putField k secret field value).IsAscii k secret fields := by
    intro f hf text htext
    rw [Store.field?_putField] at htext
    split at htext
    · cases htext
      exact encode_ascii value
    · exact hs f hf text htext
  unfold write
  cases present with
  | true =>
    refine .bind (beginCall_handles _ _ _) fun fault => ?_
    split
    · exact fun w hw => hput w.store hw
    · exact .of_fail _
    · exact .of_fail _
  | false =>
    refine .bind (beginCall_handles _ _ _) fun fault => ?_
    split
    · exact fun w _ => hcreate w.store
    · exact .of_fail _
    · exact .of_fail _

theorem persist_handles (h : Reachable k secret) {rows : List (List Char)}
    (hstored : (Notice.stored secret field).lines = .ok rows) (value : String) :
    (persist k secret field value).Handles (Store.IsAscii k secret fields)
      fun _ => Store.IsAscii k secret fields := by
  unfold persist
  exact .bind (read?_handles h _) fun found =>
    .bind ((write_handles _ _).mono (fun _ hs => hs.1) fun _ _ hs => hs) fun _ => .of_say hstored

end Secret
end DeployOptions
