import DeployOptions.Proofs.Text.Utf8

/-! Lenient reading of bytes that need not be those of a text: it splits where a character begins,
and without a replacement character in what is read nothing has been changed. -/
namespace DeployOptions.Text.Utf8

def Piece.shown : Piece → Char
  | .char c => c
  | .flaw _ _ => '\uFFFD'

@[simp]
theorem Piece.shown_char (c : Char) : (Piece.char c).shown = c := rfl

@[simp]
theorem Piece.shown_flaw (kind : Flaw) (length : Nat) :
    (Piece.flaw kind length).shown = '\uFFFD' := rfl

theorem decodeLenient_eq (bytes : List UInt8) :
    decodeLenient bytes = (pieces bytes).map Piece.shown := by
  unfold decodeLenient
  congr

/-- Reading splits before every byte that continues no character. -/
theorem decodeLenient_append {lead : UInt8} (h : isContinuation lead = false)
    (run r : List UInt8) :
    decodeLenient (run ++ lead :: r) = decodeLenient run ++ decodeLenient (lead :: r) := by
  have hthree (a : UInt8) : isSecondOfThree a lead = false := by simp [isSecondOfThree, h]
  have hfour (a : UInt8) : isSecondOfFour a lead = false := by simp [isSecondOfFour, h]
  simp only [decodeLenient_eq]
  generalize hrest : (pieces (lead :: r)).map Piece.shown = rest at *
  fun_induction pieces run with
  | case1 => exact hrest
  | _ =>
    simp only [List.cons_append, List.nil_append] at *
    rw [pieces.eq_def]
    simp +zetaDelta only [*, if_true, if_false, List.map_cons, List.map_nil, List.cons_append,
      List.nil_append, Piece.shown_char, Piece.shown_flaw, Bool.false_eq_true]

/-- The first byte of a character continues none. -/
private theorem exists_encodeChar (c : Char) :
    ∃ lead tail, encodeChar c = lead :: tail ∧ isContinuation lead = false := by
  have hvalid : c.toNat < 0xD800 ∨ (0xDFFF < c.toNat ∧ c.toNat < 0x110000) := c.valid
  have hlead {n : Nat} (hn : n < 256) (h : n < 0x80 ∨ 0xC0 ≤ n) :
      isContinuation (UInt8.ofNat n) = false := by
    rw [isContinuation, UInt8.toNat_ofNat_of_lt' hn]
    simp only [Bool.and_eq_false_iff, decide_eq_false_iff_not]
    omega
  simp only [encodeChar]
  split
  · exact ⟨_, _, rfl, hlead (by omega) (by omega)⟩
  · split
    · exact ⟨_, _, rfl, hlead (by omega) (by omega)⟩
    · split
      · exact ⟨_, _, rfl, hlead (by omega) (by omega)⟩
      · exact ⟨_, _, rfl, hlead (by omega) (by omega)⟩

/-- A character between any bytes is read as itself. -/
theorem decodeLenient_encodeChar (run : List UInt8) (c : Char) (r : List UInt8) :
    decodeLenient (run ++ (encodeChar c ++ r)) = decodeLenient run ++ c :: decodeLenient r := by
  obtain ⟨lead, tail, hc, hlead⟩ := exists_encodeChar c
  have hrest : decodeLenient (encodeChar c ++ r) = c :: decodeLenient r := by
    simp only [decodeLenient_eq, pieces_encodeChar, List.map_cons, Piece.shown_char]
  rw [← hrest, hc, List.cons_append, decodeLenient_append hlead]

private theorem ofNat_eq {n : Nat} {b : UInt8} (h : n = b.toNat) : UInt8.ofNat n = b := by
  rw [h, UInt8.ofNat_toNat]

private theorem continuation_bounds {b : UInt8} (h : isContinuation b = true) :
    ∃ k < 0x40, b.toNat = 0x80 + k ∧ low b = k := by
  simp only [isContinuation, Bool.and_eq_true, decide_eq_true_eq] at h
  exact ⟨low b, by unfold low; omega, by unfold low; omega, rfl⟩

private theorem toNat_ofNat {n : Nat} (h : n < 0xD800 ∨ (0xDFFF < n ∧ n < 0x110000)) :
    (Char.ofNat n).toNat = n := by
  unfold Char.ofNat
  rw [dif_pos h]
  rfl

private theorem encodeChar_one {a : UInt8} (ha : a.toNat < 0x80) :
    encodeChar (.ofNat a.toNat) = [a] := by
  rw [encodeChar, toNat_ofNat (by omega), if_pos ha, UInt8.ofNat_toNat]

private theorem encodeChar_two {a b : UInt8} (ha : ¬ a.toNat < 0xC2) (ha' : a.toNat < 0xE0)
    (hb : isContinuation b = true) :
    encodeChar (.ofNat ((a.toNat - 0xC0) * 0x40 + low b)) = [a, b] := by
  obtain ⟨k, hk, hbk, hlow⟩ := continuation_bounds hb
  rw [hlow, encodeChar, toNat_ofNat (by omega)]
  rw [if_neg (by omega), if_pos (by omega), ofNat_eq (b := a) (by omega),
    ofNat_eq (b := b) (by omega)]

private theorem encodeChar_three {a b c : UInt8} (ha : ¬ a.toNat < 0xE0) (ha' : a.toNat < 0xF0)
    (hb : isSecondOfThree a b = true) (hc : isContinuation c = true) :
    encodeChar (.ofNat ((a.toNat - 0xE0) * 0x1000 + low b * 0x40 + low c)) = [a, b, c] := by
  simp only [isSecondOfThree, Bool.and_eq_true, Bool.or_eq_true, bne_iff_ne, decide_eq_true_eq,
    ne_eq, ← UInt8.toNat_inj] at hb
  obtain ⟨⟨hb, hlong⟩, hsurrogate⟩ := hb
  obtain ⟨j, hj, hbj, hlowb⟩ := continuation_bounds hb
  obtain ⟨k, hk, hck, hlowc⟩ := continuation_bounds hc
  have hE0 : (0xE0 : UInt8).toNat = 0xE0 := rfl
  have hED : (0xED : UInt8).toNat = 0xED := rfl
  rw [hlowb, hlowc, encodeChar, toNat_ofNat (by omega)]
  rw [if_neg (by omega), if_neg (by omega), if_pos (by omega), ofNat_eq (b := a) (by omega),
    ofNat_eq (b := b) (by omega), ofNat_eq (b := c) (by omega)]

private theorem encodeChar_four {a b c d : UInt8} (ha : ¬ a.toNat < 0xF0) (ha' : a.toNat < 0xF5)
    (hb : isSecondOfFour a b = true) (hc : isContinuation c = true)
    (hd : isContinuation d = true) :
    encodeChar (.ofNat ((a.toNat - 0xF0) * 0x40000 + low b * 0x1000 + low c * 0x40 + low d)) =
      [a, b, c, d] := by
  simp only [isSecondOfFour, Bool.and_eq_true, Bool.or_eq_true, bne_iff_ne, decide_eq_true_eq,
    ne_eq, ← UInt8.toNat_inj] at hb
  obtain ⟨⟨hb, hlong⟩, hlast⟩ := hb
  obtain ⟨i, hi, hbi, hlowb⟩ := continuation_bounds hb
  obtain ⟨j, hj, hcj, hlowc⟩ := continuation_bounds hc
  obtain ⟨k, hk, hdk, hlowd⟩ := continuation_bounds hd
  have hF0 : (0xF0 : UInt8).toNat = 0xF0 := rfl
  have hF4 : (0xF4 : UInt8).toNat = 0xF4 := rfl
  rw [hlowb, hlowc, hlowd, encodeChar, toNat_ofNat (by omega)]
  rw [if_neg (by omega), if_neg (by omega), if_neg (by omega), ofNat_eq (b := a) (by omega),
    ofNat_eq (b := b) (by omega), ofNat_eq (b := c) (by omega), ofNat_eq (b := d) (by omega)]

private theorem encode_char {c : Char} {front rest : List UInt8} {l : List Piece}
    (hc : encodeChar c = front)
    (hl : '\uFFFD' ∉ l.map Piece.shown → encode (l.map Piece.shown) = rest)
    (h : '\uFFFD' ∉ (Piece.char c :: l).map Piece.shown) :
    encode ((Piece.char c :: l).map Piece.shown) = front ++ rest := by
  rw [List.map_cons, List.mem_cons, not_or] at h
  rw [List.map_cons, encode, List.flatMap_cons, Piece.shown_char, hc]
  exact congrArg _ (hl h.2)

/-- Where no replacement character is read, the bytes are those of what is read. -/
theorem encode_decodeLenient {bytes : List UInt8} (h : '\uFFFD' ∉ decodeLenient bytes) :
    encode (decodeLenient bytes) = bytes := by
  rw [decodeLenient_eq] at h ⊢
  -- The cases are the forms of one to four bytes, each flaw reads as the replacement character.
  fun_induction pieces bytes with
  | case1 => rfl
  | case2 a r n ha ih => exact encode_char (encodeChar_one ha) ih h
  | case5 a n _ ha ha' b r hb ih => exact encode_char (encodeChar_two ha ha' hb) ih h
  | case9 a n _ _ ha ha' b hb c r hc ih => exact encode_char (encodeChar_three ha ha' hb hc) ih h
  | case15 a n _ _ _ ha ha' b hb c hc d r hd ih =>
    exact encode_char (encodeChar_four ha ha' hb hc hd) ih h
  | _ => exact absurd List.mem_cons_self h

/-- Bytes that are read leniently as a text are its own, if they are those of any text or if no
replacement character is read. -/
theorem eq_encode_of_decodeLenient {bytes : List UInt8} {s : List Char}
    (h : decodeLenient bytes = s) (hs : '\uFFFD' ∉ s ∨ ∃ t, encode t = bytes) :
    bytes = encode s := by
  subst h
  rcases hs with hs | ⟨t, rfl⟩
  · exact (encode_decodeLenient hs).symm
  · rw [decodeLenient_encode]

end DeployOptions.Text.Utf8
