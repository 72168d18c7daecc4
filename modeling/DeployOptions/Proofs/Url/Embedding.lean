import DeployOptions.Proofs.Text.Percent
import DeployOptions.Proofs.Url.Parts
import Mathlib.Data.List.Infix

/-! Where a text holds a password as a URL does. -/
namespace DeployOptions.Url
open Text

/-- A place where a text holds a password: behind two slashes, a user without a colon and a colon,
and before an `@`. There may be a gap between the slashes. -/
structure Embedding (text : List Char) where
  front : List Char
  gap : List Char
  user : List Char
  password : List Char
  rest : List Char
  text_eq : text = front ++ '/' :: (gap ++ '/' :: (user ++ ':' :: (password ++ '@' :: rest)))
  colon_not_mem : ':' ∉ user
  within : ∀ c ∈ user ++ ':' :: password, endsAuthority c = false

theorem Embedding.mem_text {text : List Char} (e : Embedding text) {c : Char}
    (h : c ∈ e.gap ++ e.password) : c ∈ text := by
  rw [e.text_eq]
  rcases List.mem_append.mp h with h | h
  · simp [h]
  · simp [h]

/-- Whether a text holds, behind `//`, a password that is percent-decoded to these bytes. -/
def Embeds (text : List Char) (bytes : List UInt8) : Prop :=
  ∃ e : Embedding text, e.gap = [] ∧ Percent.bytes e.password = bytes

def kept (s : List Char) : List Char := s.filter fun c => !isDropped c

private theorem mem_kept {s : List Char} {c : Char} (h : c ∈ s) (hc : isDropped c = false) :
    c ∈ kept s := by
  rw [kept, List.mem_filter, hc]
  exact ⟨h, rfl⟩

private theorem isDropped_of_kept_eq_nil {s : List Char} (h : kept s = []) :
    ∀ c ∈ s, isDropped c = true := by
  intro c hc
  by_contra hkept
  have hmem := mem_kept hc (Bool.eq_false_iff.mpr hkept)
  rw [h] at hmem
  exact List.not_mem_nil hmem

/-- A character that is kept stands in the text, between what the sides of it are kept from. -/
private theorem exists_of_kept_eq {s before after : List Char} {c : Char}
    (h : kept s = before ++ c :: after) :
    ∃ before' after', s = before' ++ c :: after' ∧ kept before' = before ∧ kept after' = after := by
  obtain ⟨left, right, rfl, hleft, hright⟩ := List.filter_eq_append_iff.mp h
  obtain ⟨gap, after', rfl, hgap, -, hafter⟩ := List.filter_eq_cons_iff.mp hright
  refine ⟨left ++ gap, after', (List.append_assoc ..).symm, ?_, hafter⟩
  rw [kept, List.filter_append, hleft, List.filter_eq_nil_iff.mpr hgap, List.append_nil]

private theorem endsAuthority_of_isDropped {c : Char} (h : isDropped c = true) :
    endsAuthority c = false := by
  simp only [isDropped, Bool.or_eq_true, decide_eq_true_eq] at h
  rcases h with (rfl | rfl) | rfl <;> rfl

/-- The password that is read off a URL stands in its text, with only such characters in it and in
the gap between the slashes as are dropped. -/
theorem exists_embedding {s password : List Char}
    (h : password? (authorityText s) = some password) :
    ∃ e : Embedding s, (∀ c ∈ e.gap, isDropped c = true) ∧ kept e.password = password := by
  obtain ⟨user, place, hauthority, huser⟩ := exists_password h
  have hne : authorityText s ≠ [] := by
    rw [hauthority]
    simp
  obtain ⟨⟨front, tail, hsignificant⟩, hwithin⟩ := exists_authorityText hne
  rw [hauthority] at hsignificant hwithin
  simp only [List.append_assoc, List.cons_append] at hsignificant
  -- The parts one after another, each from what is left of the text behind the one before.
  obtain ⟨front', r₁, htext, -, h₁⟩ := exists_of_kept_eq hsignificant
  obtain ⟨gap, r₂, hr₁, hgap, h₂⟩ :=
    exists_of_kept_eq (show kept r₁ = [] ++ '/' :: _ from h₁)
  obtain ⟨user', r₃, hr₂, huser', h₃⟩ := exists_of_kept_eq h₂
  obtain ⟨password', rest, hr₃, hpassword', -⟩ := exists_of_kept_eq h₃
  have hall : s = s.takeWhile isLeadingBlank ++ front' ++
      '/' :: (gap ++ '/' :: (user' ++ ':' :: (password' ++ '@' :: rest))) := by
    rw [← hr₃, ← hr₂, ← hr₁, List.append_assoc, ← htext, List.takeWhile_append_dropWhile]
  refine ⟨⟨_, gap, user', password', rest, hall, fun hmem => huser ?_, fun c hc => ?_⟩,
    isDropped_of_kept_eq_nil hgap, hpassword'⟩
  · rw [← huser']
    exact mem_kept hmem rfl
  · -- A dropped character is not in the authority that was read, but it ends none either.
    cases hdropped : isDropped c with
    | true => exact endsAuthority_of_isDropped hdropped
    | false =>
      refine hwithin c ?_
      rcases List.mem_append.mp hc with hc | hc
      · exact List.mem_append_left _ (huser' ▸ mem_kept hc hdropped)
      · rcases List.mem_cons.mp hc with rfl | hc
        · simp
        · have hc := hpassword' ▸ mem_kept hc hdropped
          simp [hc]

/-- A search behind every colon of a text finds each password that it holds. -/
theorem not_embeds {text : List Char} {bytes : List UInt8}
    (h : ∀ place ∈ text.tails, place.head? = some ':' → ∀ w ∈ place.tail.inits,
      w ++ ['@'] <+: place.tail → Percent.bytes w ≠ bytes) : ¬ Embeds text bytes := by
  rintro ⟨e, -, hbytes⟩
  have htext : (e.front ++ '/' :: (e.gap ++ '/' :: e.user)) ++
      ':' :: (e.password ++ '@' :: e.rest) = text := by
    conv_rhs => rw [e.text_eq]
    simp
  refine h _ ((List.mem_tails ..).mpr ⟨_, htext⟩) rfl e.password ?_ ?_ hbytes
  · exact (List.mem_inits ..).mpr (List.prefix_append ..)
  · exact ⟨e.rest, by simp⟩

end DeployOptions.Url
