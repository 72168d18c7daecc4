import DeployOptions.Proofs.Text.Split
import DeployOptions.Url.Authority
import Mathlib.Data.List.TakeWhile

/-! The parts of a URL, as places in the text that it is read from. -/
namespace DeployOptions.Url
open Text

/-- The authority of a URL as it stands there, before it is checked. -/
def authorityText (s : List Char) : List Char :=
  match afterScheme (significant s) with
  | '/' :: '/' :: rest => rest.takeWhile fun c => !endsAuthority c
  | _ => []

/-- An authority is the one that stands there, if nothing is wrong with it. -/
theorem authority_eq (s : List Char) :
    authority s = match checkBrackets (authorityText s) with
      | .error f => .error f
      | .ok () =>
        if (authorityText s).any expandsToDelimiter then .error (.ambiguous (authorityText s))
        else .ok (authorityText s) := by
  rw [authority]
  split
  · next rest hafter =>
    rw [authorityText, hafter]
    rfl
  · next hafter =>
    have htext : authorityText s = [] := by
      unfold authorityText
      split
      · next rest heq => exact (hafter rest heq).elim
      · rfl
    rw [htext]
    rfl

theorem eq_authorityText {s authority : List Char} (h : Url.authority s = .ok authority) :
    authority = authorityText s := by
  rw [authority_eq] at h
  split at h
  · cases h
  · split at h
    · cases h
    · exact (Except.ok.inj h).symm

/-- What is wrong with a URL, in its authority or in the port there. -/
def fault? (s : List Char) : Option Fault :=
  match authority s with
  | .error f => some f
  | .ok authority =>
    match checkPort authority with
    | .error f => some f
    | .ok () => none

theorem afterScheme_suffix (s : List Char) : afterScheme s <:+ s := by
  unfold afterScheme
  split
  · next c scheme rest hcut =>
    split
    · obtain ⟨hs, -⟩ := eq_of_cutFirst hcut
      exact ⟨c :: scheme ++ [':'], by rw [hs]; simp⟩
    · exact List.suffix_refl s
  · exact List.suffix_refl s

/-- An authority that is not empty stands behind two slashes, and nothing in it ends it. -/
theorem exists_authorityText {s : List Char} (h : authorityText s ≠ []) :
    (∃ front tail, significant s = front ++ '/' :: '/' :: (authorityText s ++ tail)) ∧
      ∀ c ∈ authorityText s, endsAuthority c = false := by
  obtain ⟨front, hfront⟩ := afterScheme_suffix (significant s)
  unfold authorityText at h ⊢
  split at h
  · next rest hafter =>
    refine ⟨⟨front, rest.dropWhile fun c => !endsAuthority c, ?_⟩, fun c hc => ?_⟩
    · rw [List.takeWhile_append_dropWhile, ← hafter, hfront]
    · simpa using List.mem_takeWhile_imp hc
  · exact absurd rfl h

/-- A password stands between a colon, the first one behind the user, and an `@`. -/
theorem exists_password {authority password : List Char}
    (h : password? authority = some password) :
    ∃ user place, authority = user ++ ':' :: (password ++ '@' :: place) ∧ ':' ∉ user := by
  obtain ⟨info, hinfo, hpassword⟩ := Option.bind_eq_some_iff.mp h
  obtain ⟨⟨info', place⟩, hcut, rfl⟩ := Option.map_eq_some_iff.mp hinfo
  generalize hfirst : cutFirst ':' info' = first at hpassword
  obtain ⟨user, after⟩ := first
  obtain rfl : after = some password := hpassword
  obtain ⟨rfl, huser⟩ := eq_of_cutFirst hfirst
  refine ⟨user, place, ?_, huser⟩
  rw [eq_of_cutLast hcut, List.append_assoc, List.cons_append]

end DeployOptions.Url
