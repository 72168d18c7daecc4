import DeployOptions.Proofs.Url.Connection
import DeployOptions.Proofs.Url.Parts

/-! What the faults of a URL quote of it. -/
namespace DeployOptions.Url
open Text

def Fault.quoted? : Fault → Option (List Char)
  | .notAnAddress host => some host
  | .ambiguous authority => some authority
  | .portNotNumber port => some port
  | _ => none

def Fault.isFixed : Fault → Bool
  | .unbalancedBracket | .badVersionedAddress | .bracketedOctets | .portOutOfRange => true
  | _ => false

private theorem hostAndPort_suffix (authority : List Char) :
    hostAndPort authority <:+ authority := by
  rw [hostAndPort]
  cases hcut : cutLast '@' authority with
  | none => exact List.suffix_refl authority
  | some cut =>
    obtain ⟨info, place⟩ := cut
    rw [eq_of_cutLast hcut]
    exact (List.suffix_cons '@' place).trans (List.suffix_append info ('@' :: place))

private theorem portText_suffix (authority : List Char) : portText authority <:+ authority := by
  refine List.IsSuffix.trans ?_ (hostAndPort_suffix authority)
  rw [portText]
  refine (isSuffix_cutFirst ':' _).trans ?_
  have hbracketed := isSuffix_cutFirst '[' (hostAndPort authority)
  split
  · next bracketed hcut =>
    rw [hcut] at hbracketed
    exact (isSuffix_cutFirst ']' bracketed).trans hbracketed
  · exact List.suffix_refl _

private theorem eq_of_checkBracketedHost {host t : List Char} {f : Fault}
    (h : checkBracketedHost host = .error f) (ht : t ∈ f.quoted?) : t = host := by
  unfold checkBracketedHost at h
  split at h
  · split at h
    · cases h
    · cases h
      cases ht
  · split at h
    · cases h
      cases ht
    · split at h
      · cases h
      · cases h
        exact (Option.some.inj ht).symm

private theorem infix_of_checkBrackets {authority t : List Char} {f : Fault}
    (h : checkBrackets authority = .error f) (ht : t ∈ f.quoted?) : t <:+: authority := by
  have hplace := (hostAndPort_suffix authority).isInfix
  unfold checkBrackets at h
  split at h
  · split at h
    · have hbracketed := isSuffix_cutFirst '[' (hostAndPort authority)
      dsimp only at h
      split at h
      · next before bracketed hcut =>
        rw [hcut] at hbracketed
        split at h
        · cases h
          cases ht
        · rw [eq_of_checkBracketedHost h ht]
          exact (isPrefix_cutFirst ']' bracketed).isInfix.trans (hbracketed.isInfix.trans hplace)
      · rw [eq_of_checkBracketedHost h ht]
        exact (isPrefix_cutFirst ':' _).isInfix.trans hplace
    · cases h
      cases ht
  · cases h

private theorem infix_of_authority {s t : List Char} {f : Fault}
    (h : authority s = .error f) (ht : t ∈ f.quoted?) : t <:+: authorityText s := by
  rw [authority_eq] at h
  split at h
  · next f' hbrackets =>
    cases h
    exact infix_of_checkBrackets hbrackets ht
  · split at h
    · cases h
      cases ht
      exact List.infix_rfl
    · cases h

private theorem infix_of_checkPort {authority t : List Char} {f : Fault}
    (h : checkPort authority = .error f) (ht : t ∈ f.quoted?) : t <:+: authority := by
  unfold checkPort at h
  dsimp only at h
  split at h
  · cases h
  · split at h
    · cases h
      cases ht
      exact (portText_suffix authority).isInfix
    · split at h
      · cases h
        cases ht
      · split at h
        · cases h
          cases ht
        · cases h

/-- Nothing is quoted but what stands in the authority. -/
theorem infix_of_fault {s t : List Char} {f : Fault} (h : fault? s = some f)
    (ht : t ∈ f.quoted?) : t <:+: authorityText s := by
  unfold fault? at h
  split at h
  · next f' hauthority =>
    cases h
    exact infix_of_authority hauthority ht
  · next authority hauthority =>
    obtain rfl := eq_authorityText hauthority
    split at h
    · next f' hport =>
      cases h
      exact infix_of_checkPort hport ht
    · cases h

/-- With its brackets in order, no character that hides a delimiter and a port of not too many
digits, all that can be wrong with a URL is that its port is too large. -/
theorem eq_portOutOfRange {s : List Char} {f : Fault} (h : fault? s = some f)
    (hbrackets : checkBrackets (authorityText s) = .ok ())
    (hexpands : (authorityText s).any expandsToDelimiter = false)
    (hdigits : (portText (authorityText s)).all (fun c => '0' ≤ c && c ≤ '9') = true)
    (hlength : (portText (authorityText s)).length ≤ 4300) : f = .portOutOfRange := by
  rw [fault?, authority_eq, hbrackets] at h
  simp only [hexpands, Bool.false_eq_true, if_false, checkPort, hdigits, Bool.not_true,
    if_neg (Nat.not_lt.mpr hlength)] at h
  split at h
  · next hport =>
    split at hport
    · cases hport
    · split at hport
      · cases hport
        exact (Option.some.inj h).symm
      · cases hport
  · cases h

def isPlain (c : Char) : Bool :=
  !isDropped c && !endsAuthority c && !expandsToDelimiter c && !(['[', ']', '@', ':'].contains c)

section
variable {user port tail : List Char}

private theorem colon_not_mem (huser : user.all isPlain = true) : ':' ∉ user := fun h =>
  absurd (List.all_eq_true.mp huser ':' h) (by decide)

private theorem facts_of_mem (huser : user.all isPlain = true) (hport : port.all isPlain = true)
    {c : Char} (hc : c ∈ user ++ ':' :: port) :
    (isDropped c = false ∧ endsAuthority c = false ∧ expandsToDelimiter c = false) ∧
      c ≠ '[' ∧ c ≠ ']' ∧ c ≠ '@' := by
  have hplain : c = ':' ∨ isPlain c = true := by
    rcases List.mem_append.mp hc with hc | hc
    · exact .inr (List.all_eq_true.mp huser c hc)
    · exact (List.mem_cons.mp hc).imp_right (List.all_eq_true.mp hport c)
  rcases hplain with rfl | hplain
  · decide
  · simp only [isPlain, Bool.and_eq_true, Bool.not_eq_true', List.contains_cons, List.contains_nil,
      Bool.or_eq_false_iff, beq_eq_false_iff_ne] at hplain
    obtain ⟨⟨⟨hkept, hwithin⟩, hnarrow⟩, hopen, hclose, hat, -⟩ := hplain
    exact ⟨⟨hkept, hwithin, hnarrow⟩, hopen, hclose, hat⟩

private theorem authorityText_of_plain (huser : user.all isPlain = true)
    (hport : port.all isPlain = true) (htail : isTail tail = true) :
    authorityText ('/' :: '/' :: (user ++ ':' :: port ++ tail)) = user ++ ':' :: port := by
  have hkept : ∀ c ∈ user ++ ':' :: port, isDropped c = false :=
    fun c hc => (facts_of_mem huser hport hc).1.1
  have hwithin : ∀ c ∈ user ++ ':' :: port, endsAuthority c = false :=
    fun c hc => (facts_of_mem huser hport hc).1.2.1
  have hsignificant : significant ('/' :: '/' :: (user ++ ':' :: port ++ tail)) =
      '/' :: '/' :: (user ++ ':' :: port ++ tail.filter fun c => !isDropped c) := by
    rw [significant, List.dropWhile_cons_of_neg (by decide)]
    simp only [List.filter_cons]
    rw [List.filter_append, filter_eq_self_of_plain hkept]
    rfl
  have hcolon : ':' ∉ '/' :: '/' :: user := by
    simp [colon_not_mem huser]
  have hafter (rest : List Char) : afterScheme ('/' :: '/' :: (user ++ ':' :: rest)) =
      '/' :: '/' :: (user ++ ':' :: rest) := by
    rw [afterScheme, ← List.cons_append, ← List.cons_append, cutFirst_append hcolon]
    rfl
  rw [authorityText, hsignificant, List.append_assoc, List.cons_append, hafter]
  simp only
  rw [← List.cons_append, ← List.append_assoc,
    takeWhile_authority hwithin (isTail_filter htail)]

private theorem portText_of_plain (huser : user.all isPlain = true)
    (hport : port.all isPlain = true) : portText (user ++ ':' :: port) = port := by
  have hat : '@' ∉ user ++ ':' :: port := fun h => (facts_of_mem huser hport h).2.2.2 rfl
  have hopen : '[' ∉ user ++ ':' :: port := fun h => (facts_of_mem huser hport h).2.1 rfl
  have hplace : hostAndPort (user ++ ':' :: port) = user ++ ':' :: port := by
    rw [hostAndPort, cutLast_of_not_mem hat]
  rw [portText, hplace, cutFirst_of_not_mem hopen]
  simp only
  rw [cutFirst_append (colon_not_mem huser), Option.getD_some]

/-- What stands between the colon of an authority and its end is a port. If it is no number, it is
quoted, and so is the front of a password that holds an unescaped slash. -/
theorem fault?_of_port (huser : user.all isPlain = true) (hport : port.all isPlain = true)
    (htail : isTail tail = true)
    (hnumber : port.all (fun c => '0' ≤ c && c ≤ '9') = false) :
    fault? ('/' :: '/' :: (user ++ ':' :: port ++ tail)) = some (.portNotNumber port) := by
  have hopen : '[' ∉ user ++ ':' :: port := fun h => (facts_of_mem huser hport h).2.1 rfl
  have hclose : ']' ∉ user ++ ':' :: port := fun h => (facts_of_mem huser hport h).2.2.1 rfl
  have hbrackets : checkBrackets (user ++ ':' :: port) = .ok () := by
    rw [checkBrackets, if_neg (not_or.mpr ⟨hopen, hclose⟩)]
  have hexpands : (user ++ ':' :: port).any expandsToDelimiter = false := by
    rw [List.any_eq_false]
    intro c hc
    rw [(facts_of_mem huser hport hc).1.2.2]
    decide
  have hne : port.isEmpty = false := by
    cases port with
    | nil => cases hnumber
    | cons c port => rfl
  rw [fault?, authority_eq, authorityText_of_plain huser hport htail, hbrackets]
  simp only [hexpands, Bool.false_eq_true, if_false, checkPort, portText_of_plain huser hport, hne,
    hnumber, Bool.not_false, if_true]

end

end DeployOptions.Url
