import DeployOptions.Image
import DeployOptions.Proofs.Text.Split

/-! The version of an image is the tag behind its name, whatever registry and path stand before the
name and whatever digest stands behind the tag. -/
namespace DeployOptions.Image
open Text

def isSeparator (c : Char) : Bool := c = '/' || c = ':' || c = '@'

/-- A reference in its parts. Where an image is kept may hold colons, and a digest anything; its
name and its tag hold no separator. -/
structure Reference where
  place : List Char
  name : List Char
  tag : Option (List Char)
  digest : Option (List Char)
  place_plain : '@' ∉ place
  place_ends : place = [] ∨ place.getLast? = some '/'
  name_plain : ∀ c ∈ name, isSeparator c = false
  tag_plain : ∀ t ∈ tag, ∀ c ∈ t, isSeparator c = false

def Reference.base (r : Reference) : List Char := r.name ++ r.tag.elim [] (':' :: ·)

def Reference.text (r : Reference) : List Char :=
  r.place ++ r.base ++ r.digest.elim [] ('@' :: ·)

/-- What stands behind the last slash before the digest. -/
def segment (s : List Char) : List Char :=
  match cutLast '/' (cutFirst '@' s).1 with
  | some (_, after) => after
  | none => (cutFirst '@' s).1

def tagOf (segment : List Char) : List Char :=
  match cutLast ':' segment with
  | some (_, tag) => if tag.isEmpty then latest else tag
  | none => latest

theorem version_eq (s : List Char) : version s = tagOf (segment s) := rfl

variable {s place : List Char}

section Segment

/-- A digest is cut off. -/
theorem segment_append_digest (s digest : List Char) :
    segment (s ++ '@' :: digest) = segment s := by
  rw [segment, cutFirst_append_self, segment]

/-- Registry and path are cut off. -/
theorem segment_append_place (h : '@' ∉ place) (s : List Char) :
    segment (place ++ '/' :: s) = segment s := by
  have hcut : cutFirst '@' (place ++ '/' :: s) =
      (place ++ '/' :: (cutFirst '@' s).1, (cutFirst '@' s).2) := by
    rw [cutFirst_append_of_not_mem h, cutFirst, if_neg (by decide)]
  rw [segment, hcut, segment]
  cases hlast : cutLast '/' (cutFirst '@' s).1 with
  | none =>
    rw [cutLast_append place (not_mem_of_cutLast_eq_none hlast)]
  | some cut =>
    obtain ⟨before, after⟩ := cut
    have hsplit : place ++ '/' :: (cutFirst '@' s).1 = (place ++ '/' :: before) ++ '/' :: after := by
      rw [eq_of_cutLast hlast, List.append_assoc, List.cons_append]
    rw [hsplit, cutLast_append _ (not_mem_of_cutLast hlast)]

theorem segment_of_plain (hat : '@' ∉ s) (hslash : '/' ∉ s) : segment s = s := by
  rw [segment, cutFirst_of_not_mem hat, cutLast_of_not_mem hslash]

theorem not_mem_segment (s : List Char) : '/' ∉ segment s ∧ '@' ∉ segment s := by
  have hat : '@' ∉ (cutFirst '@' s).1 := not_mem_cutFirst '@' s
  rw [segment]
  cases hlast : cutLast '/' (cutFirst '@' s).1 with
  | none => exact ⟨not_mem_of_cutLast_eq_none hlast, hat⟩
  | some cut =>
    obtain ⟨before, after⟩ := cut
    refine ⟨not_mem_of_cutLast hlast, fun hmem => hat ?_⟩
    rw [eq_of_cutLast hlast]
    exact List.mem_append_right _ (List.mem_cons_of_mem _ hmem)

end Segment

section Tag

theorem tagOf_eq_or (segment : List Char) :
    tagOf segment = latest ∨
      ∃ before, tagOf segment ≠ [] ∧ segment = before ++ ':' :: tagOf segment ∧
        ':' ∉ tagOf segment := by
  unfold tagOf
  cases hcut : cutLast ':' segment with
  | none => exact .inl rfl
  | some cut =>
    obtain ⟨before, tag⟩ := cut
    cases tag with
    | nil => exact .inl rfl
    | cons c tag => exact .inr ⟨before, nofun, eq_of_cutLast hcut, not_mem_of_cutLast hcut⟩

private theorem plain_of_all {s : List Char} (h : s.all (!isSeparator ·) = true) :
    ∀ c ∈ s, isSeparator c = false := by
  simpa using h

/-- A tag is never empty and never holds a separator. -/
theorem version_plain (s : List Char) :
    version s ≠ [] ∧ ∀ c ∈ version s, isSeparator c = false := by
  rw [version_eq]
  rcases tagOf_eq_or (segment s) with hlatest | ⟨before, hne, hsegment, hcolon⟩
  · rw [hlatest]
    exact ⟨by decide, plain_of_all rfl⟩
  · refine ⟨hne, fun c hc => ?_⟩
    have hmem : c ∈ segment s := by
      rw [hsegment]
      exact List.mem_append_right _ (List.mem_cons_of_mem _ hc)
    obtain ⟨hslash, hat⟩ := not_mem_segment s
    have h₁ : c ≠ '/' := fun h => hslash (h ▸ hmem)
    have h₂ : c ≠ '@' := fun h => hat (h ▸ hmem)
    have h₃ : c ≠ ':' := fun h => hcolon (h ▸ hc)
    simp [isSeparator, h₁, h₂, h₃]

end Tag

section Reference

variable (r : Reference)

/-- The only separators in a name with its tag are colons. -/
theorem not_mem_base {c : Char} (h : isSeparator c = true) (hcolon : c ≠ ':') : c ∉ r.base := by
  intro hmem
  have hplain : isSeparator c = false := by
    rcases List.mem_append.mp hmem with hname | htag
    · exact r.name_plain c hname
    · cases ht : r.tag with
      | none =>
        rw [ht] at htag
        cases htag
      | some tag =>
        rw [ht] at htag
        exact r.tag_plain tag ht c ((List.mem_cons.mp htag).resolve_left hcolon)
  rw [hplain] at h
  cases h

theorem segment_text : segment r.text = r.base := by
  have hself : segment r.base = r.base :=
    segment_of_plain (not_mem_base r rfl (by decide)) (not_mem_base r rfl (by decide))
  have hplace : segment (r.place ++ r.base) = r.base := by
    rcases r.place_ends with hempty | hslash
    · rw [hempty]
      exact hself
    · obtain ⟨path, hpath⟩ := List.getLast?_eq_some_iff.mp hslash
      have hat : '@' ∉ path := fun hmem => r.place_plain (hpath ▸ List.mem_append_left _ hmem)
      rw [hpath, List.append_assoc, List.singleton_append, segment_append_place hat, hself]
  rw [Reference.text]
  cases r.digest with
  | none => rw [Option.elim, List.append_nil, hplace]
  | some digest => exact (segment_append_digest _ digest).trans hplace

/-- A reference without a tag, or with an empty one, has the latest version. -/
theorem version_text : version r.text =
    match r.tag with
    | some (c :: tag) => c :: tag
    | _ => latest := by
  have hname : ':' ∉ r.name := fun h => absurd (r.name_plain ':' h) (by decide)
  rw [version_eq, segment_text, tagOf, Reference.base]
  cases htag : r.tag with
  | none =>
    rw [Option.elim, List.append_nil, cutLast_of_not_mem hname]
  | some tag =>
    have hcolon : ':' ∉ tag := fun h => absurd (r.tag_plain tag htag ':' h) (by decide)
    rw [Option.elim, cutLast_append _ hcolon]
    cases tag <;> rfl

end Reference

/-- The version of a reference is its tag, or the latest one if it has none or an empty one.
Whatever the text, its version is not empty and holds no separator, and neither a digest behind it
nor a path before it makes a difference. -/
theorem version_is_tag :
    (∀ r : Reference, version r.text =
      match r.tag with
      | some (c :: tag) => c :: tag
      | _ => "latest".toList) ∧
    (∀ s, version s ≠ [] ∧ '/' ∉ version s ∧ ':' ∉ version s ∧ '@' ∉ version s) ∧
    (∀ s digest, version (s ++ '@' :: digest) = version s) ∧
    ∀ place s, '@' ∉ place → version (place ++ '/' :: s) = version s := by
  refine ⟨version_text, fun s => ?_, fun s digest => ?_, fun place s hplace => ?_⟩
  · obtain ⟨hne, hplain⟩ := version_plain s
    have hnot (c : Char) (hc : isSeparator c = true) : c ∉ version s :=
      fun hmem => by rw [hplain c hmem] at hc; cases hc
    exact ⟨hne, hnot _ (by decide), hnot _ (by decide), hnot _ (by decide)⟩
  · rw [version_eq, version_eq, segment_append_digest]
  · rw [version_eq, version_eq, segment_append_place hplace]

/-- Neither the port of a registry nor the colon of a digest is taken for a tag. -/
theorem version_is_tag_port_and_digest :
    '@' ∉ "registry.example.com:5000".toList ∧
      version "registry.example.com:5000/3scale/zync:2.11@sha256:ab/c:d".toList = "2.11".toList ∧
      version "registry.example.com:5000/zync".toList = "latest".toList := by
  obtain ⟨hreference, -, hdigest, hplace⟩ := version_is_tag
  let r : Reference := {
    place := "registry.example.com:5000/3scale/".toList
    name := "zync".toList
    tag := some "2.11".toList
    digest := some "sha256:ab/c:d".toList
    place_plain := by decide
    place_ends := by decide
    name_plain := plain_of_all rfl
    tag_plain := by
      rintro _ ⟨⟩
      exact plain_of_all rfl }
  have hport : '@' ∉ "registry.example.com:5000".toList := by decide
  exact ⟨hport, hreference r, hplace _ "zync".toList hport⟩

end DeployOptions.Image
