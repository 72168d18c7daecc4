import DeployOptions.Text.Base64

/-! Bytes written as Base64 are read back by the strict reader. -/
namespace DeployOptions.Text.Base64

private theorem value?_digit_table : ∀ n < 64, value? (digit n) = some n := by decide

private theorem digit_ne_padding : ∀ n < 64, digit n ≠ '=' := by decide

/-- A digit is ASCII, so a stored text is never refused for foreign characters. -/
private theorem digit_lt : ∀ n < 64, (digit n).toNat < 0x80 := by decide

/-- A digit joins the open group, unless it completes it. -/
private theorem decodeFrom_digit {n : Nat} (hn : n < 64) (groups : Nat) (held : List Nat)
    (h : held.length < 3) (r : List Char) :
    decodeFrom groups held false 0 (digit n :: r) = decodeFrom groups (held ++ [n]) false 0 r := by
  rw [decodeFrom]
  · rw [value?_digit_table n hn]
    match held, h with
    | [], _ => rfl
    | [_], _ => rfl
    | [_, _], _ => rfl
  · exact digit_ne_padding n hn

private theorem decodeFrom_last {a b c n : Nat} (hn : n < 64) (groups : Nat) (r : List Char) :
    decodeFrom groups [a, b, c] false 0 (digit n :: r) =
      (decodeFrom (groups + 1) [] false 0 r).map
        (partBytes [a, b, c] ++ UInt8.ofNat (c % 4 * 64 + n) :: ·) := by
  rw [decodeFrom]
  · rw [value?_digit_table n hn]
    rfl
  · exact digit_ne_padding n hn

private theorem ofNat_eq {b : UInt8} {n : Nat} (h : n = b.toNat) : UInt8.ofNat n = b := by
  rw [h, UInt8.ofNat_toNat]

private theorem partBytes_one (a : UInt8) :
    partBytes [a.toNat / 4, a.toNat % 4 * 16] = [a] := by
  simp only [partBytes, List.cons.injEq, and_true]
  exact ofNat_eq (by omega)

private theorem partBytes_two (a b : UInt8) (k : Nat) (hk : k < 4) :
    partBytes [a.toNat / 4, a.toNat % 4 * 16 + b.toNat / 16, b.toNat % 16 * 4 + k] = [a, b] := by
  have hb := b.toNat_lt
  simp only [partBytes, List.cons.injEq, and_true]
  exact ⟨ofNat_eq (by omega), ofNat_eq (by omega)⟩

private theorem decodeFrom_encode (groups : Nat) (bytes : List UInt8) :
    decodeFrom groups [] false 0 (encode bytes) = .ok bytes := by
  induction bytes using encode.induct generalizing groups with
  | case1 => rfl
  | case2 a =>
    have ha := a.toNat_lt
    rw [encode, decodeFrom_digit (by omega) _ _ (by simp),
      decodeFrom_digit (by omega) _ _ (by simp)]
    have hp := partBytes_one a
    simp [decodeFrom, hp]
  | case3 a b =>
    have ha := a.toNat_lt
    have hb := b.toNat_lt
    rw [encode, decodeFrom_digit (by omega) _ _ (by simp),
      decodeFrom_digit (by omega) _ _ (by simp), decodeFrom_digit (by omega) _ _ (by simp)]
    have hp := partBytes_two a b 0 (by decide)
    simpa [decodeFrom] using hp
  | case4 a b c r ih =>
    have ha := a.toNat_lt
    have hb := b.toNat_lt
    have hc := c.toNat_lt
    rw [encode, decodeFrom_digit (by omega) _ _ (by simp),
      decodeFrom_digit (by omega) _ _ (by simp), decodeFrom_digit (by omega) _ _ (by simp)]
    simp only [List.nil_append, List.cons_append]
    rw [decodeFrom_last (by omega), ih, partBytes_two a b _ (by omega)]
    simp only [Except.map, List.cons_append, List.nil_append]
    rw [ofNat_eq (b := c) (by omega)]

private theorem head_encode_ne_padding (bytes : List UInt8) :
    (encode bytes).head? ≠ some '=' := by
  have hdigit (a : UInt8) : digit (a.toNat / 4) ≠ '=' := by
    have ha := a.toNat_lt
    exact digit_ne_padding _ (by omega)
  match bytes with
  | [] => simp [encode]
  | [a] => simp [encode, hdigit a]
  | [a, _] => simp [encode, hdigit a]
  | a :: _ :: _ :: _ => simp [encode, hdigit a]

/-- The strict reader gets back all bytes. -/
theorem decode_encode (bytes : List UInt8) : decode (encode bytes) = .ok bytes := by
  rw [decode, if_neg (head_encode_ne_padding bytes), decodeFrom_encode]

/-- What is written is ASCII. -/
theorem encode_ascii (bytes : List UInt8) : ∀ c ∈ encode bytes, c.toNat < 0x80 := by
  induction bytes using encode.induct with
  | case1 => simp [encode]
  | case2 a =>
    have ha := a.toNat_lt
    simp only [encode, List.mem_cons, List.not_mem_nil, or_false]
    rintro c (rfl | rfl | rfl | rfl)
    · exact digit_lt _ (by omega)
    · exact digit_lt _ (by omega)
    · decide
    · decide
  | case3 a b =>
    have ha := a.toNat_lt
    have hb := b.toNat_lt
    simp only [encode, List.mem_cons, List.not_mem_nil, or_false]
    rintro c (rfl | rfl | rfl | rfl)
    · exact digit_lt _ (by omega)
    · exact digit_lt _ (by omega)
    · exact digit_lt _ (by omega)
    · decide
  | case4 a b c r ih =>
    have ha := a.toNat_lt
    have hb := b.toNat_lt
    have hc := c.toNat_lt
    simp only [encode, List.mem_cons]
    rintro x (rfl | rfl | rfl | rfl | hx)
    · exact digit_lt _ (by omega)
    · exact digit_lt _ (by omega)
    · exact digit_lt _ (by omega)
    · exact digit_lt _ (by omega)
    · exact ih x hx

end DeployOptions.Text.Base64
