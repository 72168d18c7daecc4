import DeployOptions.Proofs.Text.Lenient
import DeployOptions.Text.Percent

/-! Percent-encoding keeps every text: it is read back as it was, its escapes are well-formed, and
none of the characters that mean something in a URL is left in it. Any text with escapes is read as
the bytes that it stands for. -/
namespace DeployOptions.Text.Percent

def isSafe (c : Char) : Bool := isUnreserved c || c = '%'

private theorem hexValue?_hexDigit : ∀ n < 16, hexValue? (hexDigit n) = some n := by decide

private theorem isSafe_hexDigit : ∀ n < 16, isSafe (hexDigit n) = true := by decide

private theorem toNat_ofNat_small : ∀ n < 0x80, (Char.ofNat n).toNat = n := by decide

/-- One byte is written as itself, being no percent sign, or as an escape. -/
private theorem encodeByte_cases (b : UInt8) :
    (∃ c, encodeByte b = [c] ∧ isUnreserved c = true ∧ c.toNat < 0x80 ∧ UInt8.ofNat c.toNat = b) ∨
      ∃ m n, m < 16 ∧ n < 16 ∧ encodeByte b = ['%', hexDigit m, hexDigit n] ∧
        UInt8.ofNat (m * 16 + n) = b := by
  have hb := b.toNat_lt
  simp only [encodeByte]
  split
  · next h =>
    have hc := toNat_ofNat_small b.toNat h.1
    exact .inl ⟨_, rfl, h.2, by omega, by rw [hc, UInt8.ofNat_toNat]⟩
  · refine .inr ⟨b.toNat / 16, b.toNat % 16, by omega, by omega, rfl, ?_⟩
    rw [show b.toNat / 16 * 16 + b.toNat % 16 = b.toNat by omega, UInt8.ofNat_toNat]

private theorem unreserved_ne_percent {c : Char} (h : isUnreserved c = true) : c ≠ '%' := by
  rintro rfl
  exact absurd h (by decide)

private theorem units_encodeByte (b : UInt8) (r : List Char) :
    units (encodeByte b ++ r) = .inl b :: units r := by
  rcases encodeByte_cases b with ⟨c, he, hc, hlt, hb⟩ | ⟨m, n, hm, hn, he, hb⟩
  · rw [he, List.singleton_append,
      units.eq_3 _ _ (fun _ _ _ h => absurd h (unreserved_ne_percent hc)),
      if_pos hlt, hb]
  · rw [he]
    simp only [List.cons_append, List.nil_append, units, hexValue?_hexDigit m hm,
      hexValue?_hexDigit n hn, hb]

private theorem units_encode (s : List Char) : units (encode s) = (Utf8.encode s).map .inl := by
  rw [encode]
  generalize Utf8.encode s = bytes
  induction bytes with
  | nil => rfl
  | cons b bytes ih => rw [List.flatMap_cons, units_encodeByte, ih, List.map_cons]

private theorem readUnits_bytes (run bytes : List UInt8) :
    readUnits run (bytes.map .inl) = Utf8.decodeLenient (run ++ bytes) := by
  induction bytes generalizing run with
  | nil => rw [List.map_nil, readUnits, List.append_nil]
  | cons b bytes ih => rw [List.map_cons, readUnits, ih, List.append_assoc, List.singleton_append]

/-- An encoded text is read back as the text it stands for. -/
theorem decode_encode (s : List Char) : decode (encode s) = s := by
  rw [decode, units_encode, readUnits_bytes, List.nil_append, Utf8.decodeLenient_encode]

/-- Two texts that are written alike are the same text. -/
theorem encode_injective {s t : List Char} (h : encode s = encode t) : s = t := by
  rw [← decode_encode s, h, decode_encode]

theorem isSafe_of_mem_encode {s : List Char} {c : Char} (h : c ∈ encode s) : isSafe c = true := by
  rw [encode, List.mem_flatMap] at h
  obtain ⟨b, _, hc⟩ := h
  rcases encodeByte_cases b with ⟨x, he, hx, _⟩ | ⟨m, n, hm, hn, he, _⟩
  · rw [he, List.mem_singleton] at hc
    rw [hc, isSafe, hx, Bool.true_or]
  · rw [he] at hc
    simp only [List.mem_cons, List.not_mem_nil, or_false] at hc
    rcases hc with rfl | rfl | rfl
    · rfl
    · exact isSafe_hexDigit m hm
    · exact isSafe_hexDigit n hn

private theorem hasBrokenEscape_encodeByte (b : UInt8) (r : List Char) :
    hasBrokenEscape (encodeByte b ++ r) = hasBrokenEscape r := by
  rcases encodeByte_cases b with ⟨c, he, hc, _⟩ | ⟨m, n, hm, hn, he, _⟩
  · rw [he, List.singleton_append, hasBrokenEscape]
    exact unreserved_ne_percent hc
  · have hdigit (k : Nat) (hk : k < 16) (t : List Char) :
        hasBrokenEscape (hexDigit k :: t) = hasBrokenEscape t := by
      rw [hasBrokenEscape]
      intro hp
      have := hexValue?_hexDigit k hk
      rw [hp] at this
      exact absurd this (by simp [hexValue?])
    rw [he]
    simp only [List.cons_append, List.nil_append]
    rw [hasBrokenEscape, hdigit m hm, hdigit n hn, hexValue?_hexDigit m hm, hexValue?_hexDigit n hn]
    rfl

/-- An encoded text adds no broken escape to what follows it. -/
theorem hasBrokenEscape_encode_append (s r : List Char) :
    hasBrokenEscape (encode s ++ r) = hasBrokenEscape r := by
  rw [encode]
  generalize Utf8.encode s = bytes
  induction bytes with
  | nil => rfl
  | cons b bytes ih => rw [List.flatMap_cons, List.append_assoc, hasBrokenEscape_encodeByte, ih]

/-- The bytes that a percent-encoded text stands for: of an escape the one it writes, of any other
character those of its UTF-8 form. -/
def bytes : List Char → List UInt8
  | [] => []
  | '%' :: a :: b :: r =>
    match hexValue? a, hexValue? b with
    | some m, some n => .ofNat (m * 16 + n) :: bytes r
    | _, _ => 0x25 :: bytes (a :: b :: r)
  | c :: r => Utf8.encodeChar c ++ bytes r

private def unitBytes : UInt8 ⊕ Char → List UInt8
  | .inl b => [b]
  | .inr c => Utf8.encodeChar c

private theorem bytes_eq_units (s : List Char) : bytes s = (units s).flatMap unitBytes := by
  fun_induction bytes s with
  | case1 => rfl
  | case2 a b r m n hm hn ih =>
    simp only [units, hm, hn]
    rw [List.flatMap_cons, ih]
    rfl
  | case3 a b r hbroken ih =>
    rw [units]
    split
    · next m n hm hn => exact (hbroken m n hm hn).elim
    · rw [List.flatMap_cons, ih]
      rfl
  | case4 c r hc ih =>
    rw [units.eq_3 _ _ hc, List.flatMap_cons, ih]
    split
    · next h =>
      rw [Utf8.encodeChar, if_pos h]
      rfl
    · rfl

private theorem readUnits_eq (run : List UInt8) (us : List (UInt8 ⊕ Char)) :
    readUnits run us = Utf8.decodeLenient (run ++ us.flatMap unitBytes) := by
  induction us generalizing run with
  | nil => rw [readUnits, List.flatMap_nil, List.append_nil]
  | cons u us ih =>
    rw [List.flatMap_cons]
    cases u with
    | inl b => rw [readUnits, ih, List.append_assoc, unitBytes]
    | inr c => rw [readUnits, ih, List.nil_append, unitBytes, Utf8.decodeLenient_encodeChar]

/-- The text that a percent-encoded one stands for is a lenient reading of its bytes: reading run by
run, with other characters between the runs, comes to the same. -/
theorem decode_eq (s : List Char) : decode s = Utf8.decodeLenient (bytes s) := by
  rw [decode, readUnits_eq, List.nil_append, bytes_eq_units]

end DeployOptions.Text.Percent
