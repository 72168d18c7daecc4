import DeployOptions.Text.Utf8

/-! The bytes of a text are read back as the text, strictly and leniently. -/
namespace DeployOptions.Text.Utf8

private theorem toNat_small {n : Nat} (h : n < 256) : (UInt8.ofNat n).toNat = n :=
  UInt8.toNat_ofNat_of_lt' h

/-- Every code point is one of a character: below the surrogates or between them and the end. -/
private theorem toNat_bounds (c : Char) :
    c.toNat < 0xD800 ∨ (0xDFFF < c.toNat ∧ c.toNat < 0x110000) := c.valid

private theorem pieces_one {n : Nat} (h : n < 0x80) (r : List UInt8) :
    pieces (UInt8.ofNat n :: r) = .char (.ofNat n) :: pieces r := by
  rw [pieces.eq_def]
  simp [toNat_small (show n < 256 by omega), h]

private theorem isContinuation_tail {k : Nat} (h : k < 0x40) :
    isContinuation (UInt8.ofNat (0x80 + k)) = true := by
  simp only [isContinuation, toNat_small (show 0x80 + k < 256 by omega), Bool.and_eq_true,
    decide_eq_true_eq]
  omega

private theorem low_tail {k : Nat} (h : k < 0x40) : low (UInt8.ofNat (0x80 + k)) = k := by
  have htail := toNat_small (show 0x80 + k < 256 by omega)
  unfold low
  omega

private theorem pieces_two {a b : Nat} (ha : 2 ≤ a) (ha' : a < 0x20) (hb : b < 0x40)
    (r : List UInt8) :
    pieces (UInt8.ofNat (0xC0 + a) :: UInt8.ofNat (0x80 + b) :: r) =
      .char (.ofNat (a * 0x40 + b)) :: pieces r := by
  have hlead := toNat_small (show 0xC0 + a < 256 by omega)
  rw [pieces.eq_def]
  simp only [hlead, if_neg (show ¬ 0xC0 + a < 0x80 by omega),
    if_neg (show ¬ 0xC0 + a < 0xC2 by omega), if_pos (show 0xC0 + a < 0xE0 by omega),
    isContinuation_tail hb, if_true, low_tail hb, Nat.add_sub_cancel_left]

private theorem isSecondOfThree_tail {a b : Nat} (ha : a < 0x10) (hb : b < 0x40)
    (hlong : a = 0 → 0x20 ≤ b) (hsurrogate : a = 0xD → b < 0x20) :
    isSecondOfThree (UInt8.ofNat (0xE0 + a)) (UInt8.ofNat (0x80 + b)) = true := by
  have hlead := toNat_small (show 0xE0 + a < 256 by omega)
  have htail := toNat_small (show 0x80 + b < 256 by omega)
  have heq (k : UInt8) (hk : k.toNat - 0xE0 ≠ a) : UInt8.ofNat (0xE0 + a) ≠ k := by
    intro he
    rw [← he, hlead] at hk
    omega
  simp only [isSecondOfThree, isContinuation_tail hb, htail, Bool.true_and, Bool.and_eq_true,
    Bool.or_eq_true, bne_iff_ne, decide_eq_true_eq]
  constructor
  · by_cases h0 : a = 0
    · right
      have := hlong h0
      omega
    · exact .inl (heq 0xE0 (Ne.symm h0))
  · by_cases hD : a = 0xD
    · right
      have := hsurrogate hD
      omega
    · exact .inl (heq 0xED (Ne.symm hD))

private theorem pieces_three {a b c : Nat} (ha : a < 0x10) (hb : b < 0x40) (hc : c < 0x40)
    (hlong : a = 0 → 0x20 ≤ b) (hsurrogate : a = 0xD → b < 0x20) (r : List UInt8) :
    pieces (UInt8.ofNat (0xE0 + a) :: UInt8.ofNat (0x80 + b) :: UInt8.ofNat (0x80 + c) :: r) =
      .char (.ofNat (a * 0x1000 + b * 0x40 + c)) :: pieces r := by
  have hlead := toNat_small (show 0xE0 + a < 256 by omega)
  rw [pieces.eq_def]
  simp only [hlead, if_neg (show ¬ 0xE0 + a < 0x80 by omega),
    if_neg (show ¬ 0xE0 + a < 0xC2 by omega), if_neg (show ¬ 0xE0 + a < 0xE0 by omega),
    if_pos (show 0xE0 + a < 0xF0 by omega), isSecondOfThree_tail ha hb hlong hsurrogate, if_true,
    isContinuation_tail hc, low_tail hb, low_tail hc, Nat.add_sub_cancel_left]

private theorem isSecondOfFour_tail {a b : Nat} (ha : a < 5) (hb : b < 0x40)
    (hlong : a = 0 → 0x10 ≤ b) (hlast : a = 4 → b < 0x10) :
    isSecondOfFour (UInt8.ofNat (0xF0 + a)) (UInt8.ofNat (0x80 + b)) = true := by
  have hlead := toNat_small (show 0xF0 + a < 256 by omega)
  have htail := toNat_small (show 0x80 + b < 256 by omega)
  have heq (k : UInt8) (hk : k.toNat - 0xF0 ≠ a) : UInt8.ofNat (0xF0 + a) ≠ k := by
    intro he
    rw [← he, hlead] at hk
    omega
  simp only [isSecondOfFour, isContinuation_tail hb, htail, Bool.true_and, Bool.and_eq_true,
    Bool.or_eq_true, bne_iff_ne, decide_eq_true_eq]
  constructor
  · by_cases h0 : a = 0
    · right
      have := hlong h0
      omega
    · exact .inl (heq 0xF0 (Ne.symm h0))
  · by_cases h4 : a = 4
    · right
      have := hlast h4
      omega
    · exact .inl (heq 0xF4 (Ne.symm h4))

private theorem pieces_four {a b c d : Nat} (ha : a < 5) (hb : b < 0x40) (hc : c < 0x40)
    (hd : d < 0x40) (hlong : a = 0 → 0x10 ≤ b) (hlast : a = 4 → b < 0x10) (r : List UInt8) :
    pieces (UInt8.ofNat (0xF0 + a) :: UInt8.ofNat (0x80 + b) :: UInt8.ofNat (0x80 + c) ::
        UInt8.ofNat (0x80 + d) :: r) =
      .char (.ofNat (a * 0x40000 + b * 0x1000 + c * 0x40 + d)) :: pieces r := by
  have hlead := toNat_small (show 0xF0 + a < 256 by omega)
  rw [pieces.eq_def]
  simp only [hlead, if_neg (show ¬ 0xF0 + a < 0x80 by omega),
    if_neg (show ¬ 0xF0 + a < 0xC2 by omega), if_neg (show ¬ 0xF0 + a < 0xE0 by omega),
    if_neg (show ¬ 0xF0 + a < 0xF0 by omega), if_pos (show 0xF0 + a < 0xF5 by omega),
    isSecondOfFour_tail ha hb hlong hlast, if_true, isContinuation_tail hc, isContinuation_tail hd,
    low_tail hb, low_tail hc, low_tail hd, Nat.add_sub_cancel_left]

/-- The bytes of one character are one piece, whatever follows them. -/
theorem pieces_encodeChar (c : Char) (r : List UInt8) :
    pieces (encodeChar c ++ r) = .char c :: pieces r := by
  have hbounds := toNat_bounds c
  have hback {n : Nat} (h : n = c.toNat) : Char.ofNat n = c := by rw [h, Char.ofNat_toNat]
  simp only [encodeChar]
  split
  · next h =>
    rw [List.singleton_append, pieces_one h, Char.ofNat_toNat]
  · split
    · rw [List.cons_append, List.singleton_append,
        pieces_two (by omega) (by omega) (Nat.mod_lt _ (by decide)), hback (by omega)]
    · split
      · rw [List.cons_append, List.cons_append, List.singleton_append,
          pieces_three (by omega) (Nat.mod_lt _ (by decide)) (Nat.mod_lt _ (by decide))
            (by omega) (by omega), hback (by omega)]
      · rw [List.cons_append, List.cons_append, List.cons_append, List.singleton_append,
          pieces_four (by omega) (Nat.mod_lt _ (by decide)) (Nat.mod_lt _ (by decide))
            (Nat.mod_lt _ (by decide)) (by omega) (by omega), hback (by omega)]

theorem pieces_encode (s : List Char) : pieces (encode s) = s.map .char := by
  induction s with
  | nil => rfl
  | cons c s ih =>
    rw [encode, List.flatMap_cons, pieces_encodeChar, List.map_cons]
    exact congrArg _ ih

private theorem ofPieces_chars (position : Nat) (s : List Char) :
    ofPieces position (s.map .char) = .ok s := by
  induction s generalizing position with
  | nil => rfl
  | cons c s ih =>
    rw [List.map_cons, ofPieces, ih]
    rfl

/-- A strict reader gets back every text. -/
theorem decode_encode (s : List Char) : decode (encode s) = .ok s := by
  rw [decode, pieces_encode, ofPieces_chars]

/-- A lenient reader gets back every text, with no replacement character put in. -/
theorem decodeLenient_encode (s : List Char) : decodeLenient (encode s) = s := by
  rw [decodeLenient, pieces_encode, List.map_map]
  exact List.map_id s

end DeployOptions.Text.Utf8
