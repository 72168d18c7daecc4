import DeployOptions.Proofs.Text.Percent
import DeployOptions.Proofs.Text.Split
import DeployOptions.Url.Authority

/-! Connection URLs put together from their parts, with user and password percent-encoded. What is
read off such a URL are the parts, whatever characters user and password consist of. -/
namespace DeployOptions.Url
open Text

def portSuffix : Option Nat → List Char
  | none => []
  | some n => ':' :: (toString n).toList

def connectionAuthority (user password host : List Char) (port : Option Nat) : List Char :=
  Percent.encode user ++ ':' :: Percent.encode password ++ '@' :: (host ++ portSuffix port)

/-- A connection URL. The tail is path, query and fragment. -/
def connection (scheme user password host : List Char) (port : Option Nat) (tail : List Char) :
    List Char :=
  scheme ++ ':' :: '/' :: '/' :: (connectionAuthority user password host port ++ tail)

def isHostChar (c : Char) : Bool := c.isAlphanum || c = '.' || c = '-'

def isTail (tail : List Char) : Bool := tail.head?.all endsAuthority

private def isInfoChar (c : Char) : Bool := Percent.isSafe c || c = ':' || c = '@'

private theorem lt_of_isAlphanum {c : Char} (h : c.isAlphanum = true) : c.toNat < 0x80 := by
  delta Char.isAlphanum Char.isAlpha Char.isUpper Char.isLower Char.isDigit at h
  simp only [Bool.or_eq_true, decide_eq_true_eq, Bool.and_eq_true, UInt32.le_iff_toNat_le] at h
  have hnat : c.toNat = c.val.toNat := rfl
  simp at h
  omega

private theorem lt_of_isInfoChar {c : Char} (h : isInfoChar c = true) : c.toNat < 0x80 := by
  simp only [isInfoChar, Percent.isSafe, Percent.isUnreserved, Bool.or_eq_true,
    decide_eq_true_eq] at h
  rcases h with ((((((h | rfl) | rfl) | rfl) | rfl) | rfl) | rfl) | rfl
  · exact lt_of_isAlphanum h
  all_goals decide

private theorem infoChar_table : ∀ n < 0x80, isInfoChar (.ofNat n) = true →
    endsAuthority (.ofNat n) = false ∧ isDropped (.ofNat n) = false ∧
      expandsToDelimiter (.ofNat n) = false ∧ Char.ofNat n ≠ '[' ∧ Char.ofNat n ≠ ']' := by
  decide

private theorem infoChar_plain {c : Char} (h : isInfoChar c = true) :
    endsAuthority c = false ∧ isDropped c = false ∧ expandsToDelimiter c = false ∧
      c ≠ '[' ∧ c ≠ ']' := by
  have ht := infoChar_table c.toNat (lt_of_isInfoChar h)
  rw [Char.ofNat_toNat] at ht
  exact ht h

private theorem safe_ne_delimiter {c : Char} (h : Percent.isSafe c = true) : c ≠ ':' ∧ c ≠ '@' := by
  constructor <;> rintro rfl <;> exact absurd h (by decide)

private theorem isSafe_of_isHostChar {c : Char} (h : isHostChar c = true) :
    Percent.isSafe c = true := by
  simp only [isHostChar, Bool.or_eq_true, decide_eq_true_eq] at h
  rcases h with (h | rfl) | rfl
  · simp [Percent.isSafe, Percent.isUnreserved, h]
  · rfl
  · rfl

private theorem isDigit_of_mem_port {n : Nat} {c : Char} (h : c ∈ (toString n).toList) :
    c.isDigit = true := by
  rw [Nat.toString_eq_ofList_toDigits, String.toList_ofList] at h
  exact Nat.isDigit_of_mem_toDigits (by decide) (by decide) h

private theorem isHostChar_of_isDigit {c : Char} (h : c.isDigit = true) : isHostChar c = true := by
  simp [isHostChar, Char.isAlphanum, h]

private theorem portSuffix_chars {port : Option Nat} {c : Char} (h : c ∈ portSuffix port) :
    c = ':' ∨ isHostChar c = true := by
  match port, h with
  | some n, h =>
    rcases List.mem_cons.mp h with rfl | h
    · exact .inl rfl
    · exact .inr (isHostChar_of_isDigit (isDigit_of_mem_port h))

section
variable {user password host : List Char} {port : Option Nat}

private theorem at_not_mem_place (hhost : host.all isHostChar = true) :
    '@' ∉ host ++ portSuffix port := by
  intro h
  rcases List.mem_append.mp h with h | h
  · exact absurd (List.all_eq_true.mp hhost _ h) (by decide)
  · rcases portSuffix_chars h with h | h
    · exact absurd h (by decide)
    · exact absurd h (by decide)

private theorem connectionAuthority_chars (hhost : host.all isHostChar = true) {c : Char}
    (h : c ∈ connectionAuthority user password host port) : isInfoChar c = true := by
  have hsafe {x : Char} (hx : Percent.isSafe x = true) : isInfoChar x = true := by
    simp [isInfoChar, hx]
  simp only [connectionAuthority, List.append_assoc, List.cons_append, List.mem_append,
    List.mem_cons] at h
  rcases h with h | rfl | h | rfl | h | h
  · exact hsafe (Percent.isSafe_of_mem_encode h)
  · rfl
  · exact hsafe (Percent.isSafe_of_mem_encode h)
  · rfl
  · exact hsafe (isSafe_of_isHostChar (List.all_eq_true.mp hhost c h))
  · rcases portSuffix_chars h with rfl | h
    · rfl
    · exact hsafe (isSafe_of_isHostChar h)

theorem hostAndPort_connectionAuthority (hhost : host.all isHostChar = true) :
    hostAndPort (connectionAuthority user password host port) = host ++ portSuffix port := by
  rw [hostAndPort, connectionAuthority, cutLast_append _ (at_not_mem_place hhost)]

theorem userInfo?_connectionAuthority (hhost : host.all isHostChar = true) :
    userInfo? (connectionAuthority user password host port) =
      some (Percent.encode user ++ ':' :: Percent.encode password) := by
  rw [userInfo?, connectionAuthority, cutLast_append _ (at_not_mem_place hhost), Option.map_some]

/-- The password part is the encoded password, whatever user and password hold. -/
theorem password?_connectionAuthority (hhost : host.all isHostChar = true) :
    password? (connectionAuthority user password host port) = some (Percent.encode password) := by
  have hcolon : ':' ∉ Percent.encode user := fun h =>
    (safe_ne_delimiter (Percent.isSafe_of_mem_encode h)).1 rfl
  rw [password?, userInfo?_connectionAuthority hhost, Option.bind_some, cutFirst_append hcolon]

private theorem decimal_toString (n : Nat) : decimal (toString n).toList = n := by
  rw [Nat.toString_eq_ofList_toDigits, String.toList_ofList]
  have h := Nat.ofDigitChars_ten_toDigits (n := n)
  rw [Nat.ofDigitChars_eq_foldl] at h
  simp only [Nat.mul_comm 10] at h
  exact h

private theorem length_toString_le {n : Nat} (h : n ≤ 65535) : (toString n).toList.length ≤ 5 := by
  rw [Nat.toString_eq_ofList_toDigits, String.toList_ofList,
    Nat.length_toDigits_le_iff (by decide) (by decide)]
  omega

private theorem portText_connectionAuthority (hhost : host.all isHostChar = true) :
    portText (connectionAuthority user password host port) =
      (port.map fun n => (toString n).toList).getD [] := by
  have hhostChar (c : Char) (hc : isHostChar c = false) : c ∉ host := fun h => by
    rw [List.all_eq_true.mp hhost c h] at hc
    exact absurd hc (by decide)
  have hbracket : '[' ∉ host ++ portSuffix port := by
    intro h
    rcases List.mem_append.mp h with h | h
    · exact hhostChar '[' (by decide) h
    · rcases portSuffix_chars h with h | h
      · exact absurd h (by decide)
      · exact absurd h (by decide)
  rw [portText, hostAndPort_connectionAuthority hhost, cutFirst_of_not_mem hbracket]
  cases port with
  | none =>
    simp only [portSuffix, List.append_nil]
    rw [cutFirst_of_not_mem (hhostChar ':' (by decide))]
    rfl
  | some n =>
    simp only [portSuffix]
    rw [cutFirst_append (hhostChar ':' (by decide))]
    rfl

theorem checkPort_connectionAuthority (hhost : host.all isHostChar = true)
    (hport : ∀ n ∈ port, n ≤ 65535) :
    checkPort (connectionAuthority user password host port) = .ok () := by
  rw [checkPort, portText_connectionAuthority hhost]
  cases port with
  | none => rfl
  | some n =>
    have hn := hport n rfl
    have hdigits : (toString n).toList.all (fun c => '0' ≤ c && c ≤ '9') = true := by
      rw [List.all_eq_true]
      intro c hc
      have hd := isDigit_of_mem_port hc
      simp only [Char.isDigit, Bool.and_eq_true, decide_eq_true_eq] at hd
      simpa [Char.le_def] using hd
    have hlength := length_toString_le hn
    simp only [Option.map_some, Option.getD_some, hdigits, Bool.not_true, decimal_toString]
    rw [if_neg (show ¬ 4300 < (toString n).toList.length by omega),
      if_neg (show ¬ 65535 < n by omega)]
    simp

end

theorem filter_eq_self_of_plain {s : List Char} (h : ∀ c ∈ s, isDropped c = false) :
    (s.filter fun c => !isDropped c) = s := by
  rw [List.filter_eq_self]
  intro c hc
  rw [h c hc]
  rfl

private theorem letter_plain {c : Char} (h : c.isAlpha = true) :
    isLetter c = true ∧ isDropped c = false ∧ isLeadingBlank c = false ∧ c ≠ ':' := by
  have hnat : c.toNat = c.val.toNat := rfl
  have hbound : 65 ≤ c.toNat ∧ c.toNat ≤ 122 := by
    delta Char.isAlpha Char.isUpper Char.isLower at h
    simp only [Bool.or_eq_true, Bool.and_eq_true, decide_eq_true_eq,
      UInt32.le_iff_toNat_le] at h
    simp at h
    omega
  have table : ∀ n < 123, (Char.ofNat n).isAlpha = true → isLetter (.ofNat n) = true ∧
      isDropped (.ofNat n) = false ∧ isLeadingBlank (.ofNat n) = false ∧ Char.ofNat n ≠ ':' := by
    decide
  have ht := table c.toNat (by omega)
  rw [Char.ofNat_toNat] at ht
  exact ht h

theorem isTail_filter {tail : List Char} (h : isTail tail = true) :
    isTail (tail.filter fun c => !isDropped c) = true := by
  cases tail with
  | nil => rfl
  | cons c r =>
    have hc : endsAuthority c = true := h
    have hkept : isDropped c = false := by
      simp only [endsAuthority, Bool.or_eq_true, decide_eq_true_eq] at hc
      rcases hc with (rfl | rfl) | rfl <;> rfl
    rw [List.filter_cons, hkept]
    exact hc

theorem takeWhile_authority {s tail : List Char} (hs : ∀ c ∈ s, endsAuthority c = false)
    (ht : isTail tail = true) : (s ++ tail).takeWhile (fun c => !endsAuthority c) = s := by
  rw [List.takeWhile_append_of_pos (fun c hc => by rw [hs c hc]; rfl)]
  cases tail with
  | nil => simp
  | cons c r =>
    have hc : endsAuthority c = true := ht
    rw [List.takeWhile_cons_of_neg (by rw [hc]; decide), List.append_nil]

/-- The authority of a connection URL is the one it was put together from. -/
theorem authority_connection {scheme user password host : List Char} {port : Option Nat}
    {tail : List Char} (hscheme : scheme ≠ []) (hletters : scheme.all Char.isAlpha = true)
    (hhost : host.all isHostChar = true) (htail : isTail tail = true) :
    authority (connection scheme user password host port tail) =
      .ok (connectionAuthority user password host port) := by
  obtain ⟨first, scheme, rfl⟩ := List.exists_cons_of_ne_nil hscheme
  have hplain {c : Char} (hc : c ∈ connectionAuthority user password host port) :=
    infoChar_plain (connectionAuthority_chars hhost hc)
  have hletter {c : Char} (hc : c ∈ first :: scheme) :=
    letter_plain (List.all_eq_true.mp hletters c hc)
  have hsignificant : significant (connection (first :: scheme) user password host port tail) =
      first :: scheme ++ ':' :: '/' :: '/' :: (connectionAuthority user password host port ++
        tail.filter fun c => !isDropped c) := by
    rw [significant, connection, List.cons_append, List.dropWhile_cons_of_neg
      (by rw [(hletter List.mem_cons_self).2.2.1]; decide), ← List.cons_append, List.filter_append,
      filter_eq_self_of_plain fun c hc => (hletter hc).2.1]
    simp only [List.filter_cons, List.filter_append,
      filter_eq_self_of_plain fun c hc => (hplain hc).2.1]
    rfl
  have hcolon : ':' ∉ first :: scheme := fun h => (hletter h).2.2.2 rfl
  have hschemeChars : (first :: scheme).all isSchemeChar = true := by
    rw [List.all_eq_true]
    intro c hc
    simp [isSchemeChar, (hletter hc).1]
  have hbrackets : checkBrackets (connectionAuthority user password host port) = .ok () := by
    rw [checkBrackets, if_neg]
    rintro (h | h)
    · exact (hplain h).2.2.2.1 rfl
    · exact (hplain h).2.2.2.2 rfl
  have hexpands : (connectionAuthority user password host port).any expandsToDelimiter = false := by
    rw [List.any_eq_false]
    intro c hc
    rw [(hplain hc).2.2.1]
    decide
  rw [authority, hsignificant, afterScheme, cutFirst_append hcolon]
  simp only [(hletter List.mem_cons_self).1, hschemeChars, Bool.and_self, if_true]
  rw [takeWhile_authority (fun c hc => (hplain hc).1) (isTail_filter htail), hbrackets]
  simp only [hexpands, Bool.false_eq_true, if_false]

end DeployOptions.Url
