import DeployOptions.Alert.Component

/-! How templates are written, and what they come to: every template is a list of parts, and filling
it goes over these parts once, so what is put in for a name is never read again. -/
namespace DeployOptions.Template

def IsName (n : List Char) : Prop :=
  n.head?.any isNameStart = true ∧ ∀ c ∈ n, isNameChar c = true

inductive Part
  | text (s : List Char)
  | hole (name : List Char)
  | stray
deriving DecidableEq, Repr

def doubled (s : List Char) : List Char := s.flatMap fun c => if c = '$' then ['$', '$'] else [c]

/-- What stands behind a dollar sign with which nothing begins: neither another one nor a name nor a
name in braces. -/
structure BeginsNothing (t : List Char) : Prop where
  no_dollar : ∀ r, t ≠ '$' :: r
  no_name : ∀ n r, IsName n → t ≠ n ++ r
  no_braces : ∀ n r, IsName n → t ≠ '\x7b' :: (n ++ '\x7d' :: r)

/-- How parts are written. A name may stand without braces where what follows does not go on with
it; a dollar sign with which nothing begins is a part of its own. -/
inductive Written : List Part → List Char → Prop
  | nil : Written [] []
  | text (s : List Char) {parts : List Part} {t : List Char} (rest : Written parts t) :
      Written (.text s :: parts) (doubled s ++ t)
  | braced {n : List Char} {parts : List Part} {t : List Char} (hn : IsName n)
      (rest : Written parts t) : Written (.hole n :: parts) ('$' :: '\x7b' :: (n ++ '\x7d' :: t))
  | bare {n : List Char} {parts : List Part} {t : List Char} (hn : IsName n)
      (hend : ∀ c ∈ t.head?, isNameChar c = false) (rest : Written parts t) :
      Written (.hole n :: parts) ('$' :: (n ++ t))
  | stray {parts : List Part} {t : List Char} (hnothing : BeginsNothing t)
      (rest : Written parts t) : Written (.stray :: parts) ('$' :: t)

variable {value? : String → Option (List Char)} {n s t template : List Char} {position : Nat}
  {parts front back : List Part}

section Names

theorem IsName.exists_cons (h : IsName n) : ∃ c r, n = c :: r ∧ isNameStart c = true := by
  cases n with
  | nil => exact absurd h.1 (by decide)
  | cons c r => exact ⟨c, r, rfl, by simpa using h.1⟩

/-- A name is read up to what does not go on with it. -/
theorem IsName.takeWhile_append (h : IsName n) (hend : ∀ c ∈ t.head?, isNameChar c = false) :
    (n ++ t).takeWhile isNameChar = n := by
  rw [List.takeWhile_append_of_pos h.2]
  cases t with
  | nil => simp
  | cons c t => simp [hend c rfl]

/-- What is read from the start of a name is one. -/
theorem exists_name {c : Char} (hc : isNameStart c = true) (s : List Char) :
    ∃ n r, (c :: s).takeWhile isNameChar = n ∧ c :: s = n ++ r ∧ IsName n ∧
      ∀ x ∈ r.head?, isNameChar x = false := by
  have hchar : isNameChar c = true := by
    simp only [isNameStart, isNameChar, Char.isAlphanum, Bool.or_eq_true] at hc ⊢
    exact hc.imp_right .inl
  refine ⟨_, (c :: s).dropWhile isNameChar, rfl, List.takeWhile_append_dropWhile.symm, ⟨?_, ?_⟩, ?_⟩
  · rw [List.takeWhile_cons_of_pos hchar]
    simpa using hc
  · exact List.all_eq_true.mp List.all_takeWhile
  · intro x hx
    have hstop := List.head?_dropWhile_not isNameChar (c :: s)
    rw [Option.mem_def.mp hx] at hstop
    exact hstop

theorem bracedName?_name (h : IsName n) (t : List Char) :
    bracedName? (n ++ '\x7d' :: t) = some n := by
  have htake : (n ++ '\x7d' :: t).takeWhile isNameChar = n := h.takeWhile_append (by simp; decide)
  obtain ⟨c, r, rfl, hc⟩ := h.exists_cons
  rw [List.cons_append] at htake ⊢
  rw [bracedName?, htake, ← List.cons_append, List.drop_left]
  simp [hc]

theorem exists_of_bracedName? (h : bracedName? s = some n) :
    IsName n ∧ ∃ t, s = n ++ '\x7d' :: t := by
  cases s with
  | nil => cases h
  | cons c s =>
    rw [bracedName?] at h
    split at h
    · next hname =>
      obtain ⟨m, r, htake, hsplit, hm, -⟩ := exists_name hname.1 s
      have hbrace := hname.2
      rw [htake, hsplit, List.drop_left] at hbrace
      obtain ⟨t, rfl⟩ := List.head?_eq_some_iff.mp hbrace
      rw [htake] at h
      obtain rfl := Option.some.inj h
      exact ⟨hm, t, hsplit⟩
    · cases h

end Names

section Parts

/-- What may begin with a dollar sign: another one, a name, a name in braces, or nothing. -/
theorem begins_cases (t : List Char) :
    (∃ r, t = '$' :: r) ∨
      (∃ n r, t = n ++ r ∧ IsName n ∧ ∀ c ∈ r.head?, isNameChar c = false) ∨
      (∃ n r, t = '\x7b' :: (n ++ '\x7d' :: r) ∧ IsName n) ∨ BeginsNothing t := by
  by_cases hdollar : ∃ r, t = '$' :: r
  · exact .inl hdollar
  by_cases hname : ∃ n r, IsName n ∧ t = n ++ r
  · obtain ⟨n, r, hn, rfl⟩ := hname
    obtain ⟨c, s, rfl, hc⟩ := hn.exists_cons
    obtain ⟨m, r', -, hsplit, hm, hend⟩ := exists_name hc (s ++ r)
    exact .inr (.inl ⟨m, r', hsplit, hm, hend⟩)
  by_cases hbraces : ∃ n r, IsName n ∧ t = '\x7b' :: (n ++ '\x7d' :: r)
  · obtain ⟨n, r, hn, ht⟩ := hbraces
    exact .inr (.inr (.inl ⟨n, r, ht, hn⟩))
  · refine .inr (.inr (.inr ⟨fun r ht => hdollar ⟨r, ht⟩, fun n r hn ht => ?_, fun n r hn ht => ?_⟩))
    · exact hname ⟨n, r, hn, ht⟩
    · exact hbraces ⟨n, r, hn, ht⟩

/-- Every template is written from some parts. -/
theorem exists_written : ∀ s : List Char, ∃ parts, Written parts s
  | [] => ⟨[], .nil⟩
  | c :: s => by
    by_cases hc : c = '$'
    · subst hc
      rcases begins_cases s with ⟨r, rfl⟩ | ⟨n, r, rfl, hn, hend⟩ | ⟨n, r, rfl, hn⟩ | hnothing
      · obtain ⟨parts, h⟩ := exists_written r
        exact ⟨_, .text ['$'] h⟩
      · obtain ⟨parts, h⟩ := exists_written r
        exact ⟨_, .bare hn hend h⟩
      · obtain ⟨parts, h⟩ := exists_written r
        exact ⟨_, .braced hn h⟩
      · obtain ⟨parts, h⟩ := exists_written s
        exact ⟨_, .stray hnothing h⟩
    · obtain ⟨parts, h⟩ := exists_written s
      have hplain : doubled [c] = [c] := by simp [doubled, hc]
      have htext := Written.text [c] h
      rw [hplain] at htext
      exact ⟨_, htext⟩
termination_by s => s.length

end Parts

section Reading

/-- What a piece has taken is passed over. -/
theorem piecesFrom_length_append (s t : List Char) (position : Nat) :
    piecesFrom position s.length (s ++ t) = piecesFrom (position + s.length) 0 t := by
  induction s generalizing position with
  | nil => rfl
  | cons c s ih =>
    rw [List.length_cons, List.cons_append, piecesFrom, ih]
    congr 1
    omega

theorem piecesFrom_braced (hn : IsName n) (t : List Char) (position : Nat) :
    piecesFrom position 0 ('$' :: '\x7b' :: (n ++ '\x7d' :: t)) =
      (position + 1, .hole n) :: piecesFrom (position + (n.length + 3)) 0 t := by
  have hbrace : ('\x7b' : Char) ≠ '$' ∧ isNameStart '\x7b' = false := by decide
  have hskip := piecesFrom_length_append ('\x7b' :: (n ++ ['\x7d'])) t (position + 1)
  simp only [List.length_cons, List.length_append, List.length_nil, List.cons_append,
    List.append_assoc, List.nil_append] at hskip
  rw [piecesFrom]
  simp only [ne_eq, not_true_eq_false, if_false, hbrace.1, hbrace.2, Bool.false_eq_true, if_true,
    bracedName?_name hn]
  rw [hskip]
  congr 2
  omega

theorem piecesFrom_bare (hn : IsName n) (hend : ∀ c ∈ t.head?, isNameChar c = false)
    (position : Nat) :
    piecesFrom position 0 ('$' :: (n ++ t)) =
      (position + 1, .hole n) :: piecesFrom (position + (n.length + 1)) 0 t := by
  have htake := hn.takeWhile_append hend
  have hskip := piecesFrom_length_append n t (position + 1)
  obtain ⟨c, r, rfl, hc⟩ := hn.exists_cons
  have hdollar : c ≠ '$' := by
    rintro rfl
    exact absurd hc (by decide)
  rw [List.cons_append] at htake hskip ⊢
  rw [piecesFrom]
  simp only [ne_eq, not_true_eq_false, if_false, hdollar, hc, if_true, htake]
  rw [hskip]
  congr 2
  omega

theorem piecesFrom_stray (h : BeginsNothing t) (position : Nat) :
    piecesFrom position 0 ('$' :: t) =
      (position + 1, .stray) :: piecesFrom (position + 1) 0 t := by
  cases t with
  | nil => rfl
  | cons d s =>
    rw [piecesFrom]
    have hdollar : d ≠ '$' := by
      rintro rfl
      exact h.no_dollar s rfl
    have hstart : isNameStart d = false := by
      rw [← Bool.not_eq_true]
      intro hd
      obtain ⟨n, r, -, hsplit, hn, -⟩ := exists_name hd s
      exact h.no_name n r hn hsplit
    have hbraced : (if d = '\x7b' then bracedName? s else none) = none := by
      split
      · next hd =>
        rw [Option.eq_none_iff_forall_ne_some]
        intro n hn
        obtain ⟨hname, r, rfl⟩ := exists_of_bracedName? hn
        exact h.no_braces n r hname (by rw [hd])
      · rfl
    simp only [ne_eq, not_true_eq_false, if_false, hdollar, hstart, Bool.false_eq_true, hbraced]

/-- How a character of a text is written. -/
theorem piecesFrom_char (c : Char) (t : List Char) (position : Nat) :
    piecesFrom position 0 (doubled [c] ++ t) =
      (position + 1, .literal c) :: piecesFrom (position + (doubled [c]).length) 0 t := by
  by_cases hc : c = '$'
  · subst hc
    exact congrArg (_ :: ·) (piecesFrom_length_append ['$'] t (position + 1))
  · have hplain : doubled [c] = [c] := by simp [doubled, hc]
    rw [hplain, List.singleton_append, piecesFrom.eq_def]
    simp only [ne_eq, hc, not_false_eq_true, if_true, List.length_singleton]

private theorem map_nil_append (e : Except Fault (List Char)) : e.map ([] ++ ·) = e := by
  cases e <;> rfl

/-- Text comes back with its dollar signs single. -/
theorem fillPieces_doubled (s t template : List Char) (position : Nat) :
    fillPieces template value? (piecesFrom position 0 (doubled s ++ t)) =
      (fillPieces template value? (piecesFrom (position + (doubled s).length) 0 t)).map
        (s ++ ·) := by
  induction s generalizing position with
  | nil =>
    exact (map_nil_append _).symm
  | cons c s ih =>
    have hcons : doubled (c :: s) = doubled [c] ++ doubled s := by simp [doubled]
    rw [hcons, List.append_assoc, piecesFrom_char, fillPieces, ih, List.length_append, Nat.add_assoc]
    cases fillPieces template value?
      (piecesFrom (position + ((doubled [c]).length + (doubled s).length)) 0 t) <;> rfl

end Reading

section Filling

def Part.filled? (value? : String → Option (List Char)) : Part → Option (List Char)
  | .text s => some s
  | .hole n => value? (String.ofList n)
  | .stray => none

def filled (value? : String → Option (List Char)) (parts : List Part) : List Char :=
  parts.flatMap fun p => (p.filled? value?).getD []

/-- A part that can be filled is, and filling goes on behind it. -/
theorem fillPieces_part {p : Part} {x : List Char} (h : Written (p :: parts) s)
    (hx : p.filled? value? = some x) :
    ∃ front t, s = front ++ t ∧ Written parts t ∧ ∀ template position,
      fillPieces template value? (piecesFrom position 0 s) =
        (fillPieces template value? (piecesFrom (position + front.length) 0 t)).map (x ++ ·) := by
  cases h with
  | text u rest =>
    obtain rfl := Option.some.inj hx
    exact ⟨doubled u, _, rfl, rest, fillPieces_doubled u _⟩
  | @braced n _ t hn rest =>
    have hvalue : value? (String.ofList n) = some x := hx
    refine ⟨'$' :: '\x7b' :: (n ++ ['\x7d']), t, by simp, rest, fun template position => ?_⟩
    rw [piecesFrom_braced hn, fillPieces, hvalue]
    simp
  | @bare n _ t hn hend rest =>
    have hvalue : value? (String.ofList n) = some x := hx
    refine ⟨'$' :: n, t, rfl, rest, fun template position => ?_⟩
    rw [piecesFrom_bare hn hend, fillPieces, hvalue]
    rfl
  | stray hnothing rest => cases hx

/-- Parts that can be filled are, one after the other, and filling goes on behind them. -/
theorem fillPieces_parts (hfront : ∀ p ∈ front, (p.filled? value?).isSome)
    (h : Written (front ++ back) s) :
    ∃ r t, s = r ++ t ∧ Written back t ∧ ∀ template position,
      fillPieces template value? (piecesFrom position 0 s) =
        (fillPieces template value? (piecesFrom (position + r.length) 0 t)).map
          (filled value? front ++ ·) := by
  induction front generalizing s with
  | nil =>
    exact ⟨[], s, rfl, h, fun _ _ => (map_nil_append _).symm⟩
  | cons p front ih =>
    simp only [List.forall_mem_cons] at hfront
    obtain ⟨x, hx⟩ := Option.isSome_iff_exists.mp hfront.1
    obtain ⟨r, t, rfl, hrest, hpart⟩ := fillPieces_part h hx
    obtain ⟨r', t', rfl, hback, hparts⟩ := ih hfront.2 hrest
    refine ⟨r ++ r', t', by rw [List.append_assoc], hback, fun template position => ?_⟩
    have hfilled : filled value? (p :: front) = x ++ filled value? front := by
      simp [filled, hx]
    rw [hpart, hparts, hfilled, List.length_append, Nat.add_assoc]
    cases fillPieces template value? (piecesFrom (position + (r.length + r'.length)) 0 t') with
    | error f => rfl
    | ok y => exact congrArg Except.ok (List.append_assoc x _ y).symm

/-- A name without a value ends the filling. -/
theorem fillPieces_hole (h : Written (.hole n :: parts) s) (hn : value? (String.ofList n) = none)
    (template : List Char) (position : Nat) :
    fillPieces template value? (piecesFrom position 0 s) =
      .error (.undefined (String.ofList n)) := by
  cases h with
  | braced hname rest => rw [piecesFrom_braced hname, fillPieces, hn]
  | bare hname hend rest => rw [piecesFrom_bare hname hend, fillPieces, hn]

end Filling

end DeployOptions.Template

namespace DeployOptions.Alert
open Template

def valueIn (values : List (String × String)) (name : String) : Option (List Char) :=
  (Assoc.get? name values).map String.toList

variable {values : List (String × String)}

private theorem condition_eq (template : String) (values : List (String × String)) :
    condition template values =
      match fillPieces template.toList (valueIn values) (piecesFrom 0 0 template.toList) with
      | .ok s => .ok (String.ofList s)
      | .error (.undefined name) => .error (.undefinedName name)
      | .error (.stray line column) => .error (.strayDollar line column) := rfl

/-- A part that is no stray dollar sign can be filled if its name has a value. -/
private theorem isSome_filled? {parts : List Part} (hstray : .stray ∉ parts)
    (hvalues : ∀ n, .hole n ∈ parts → (Assoc.get? (String.ofList n) values).isSome) :
    ∀ p ∈ parts, (p.filled? (valueIn values)).isSome := by
  intro p hp
  cases p with
  | text s => rfl
  | hole n =>
    rw [Part.filled?, valueIn, Option.isSome_map]
    exact hvalues n hp
  | stray => exact absurd hp hstray

/-- Every template is written from parts, and it is filled from them in one pass. Where all names
have values, it comes to the texts with the values between them, just as they are. The first name
without a value is reported if no stray dollar sign stands before it, and a stray dollar sign is if
no such name does. -/
theorem condition_of_written (template : String) (values : List (String × String)) :
    (∃ parts, Written parts template.toList) ∧
    ∀ parts, Written parts template.toList →
      (.stray ∉ parts →
        (∀ n, .hole n ∈ parts → (Assoc.get? (String.ofList n) values).isSome) →
        condition template values = .ok (String.ofList (filled (valueIn values) parts))) ∧
      (∀ front n back, parts = front ++ .hole n :: back → .stray ∉ front →
        (∀ m, .hole m ∈ front → (Assoc.get? (String.ofList m) values).isSome) →
        Assoc.get? (String.ofList n) values = none →
        condition template values = .error (.undefinedName (String.ofList n))) ∧
      ∀ front back, parts = front ++ .stray :: back →
        (∀ n, .hole n ∈ front → (Assoc.get? (String.ofList n) values).isSome) →
        ∃ before after, template.toList = before ++ '$' :: after ∧ BeginsNothing after ∧
          condition template values = .error (.strayDollar (place 1 0 (before ++ ['$'])).1
            (place 1 0 (before ++ ['$'])).2) := by
  refine ⟨exists_written _, fun parts h => ⟨fun hstray hvalues => ?_, ?_, ?_⟩⟩
  · rw [← List.append_nil parts] at h
    obtain ⟨r, t, -, hend, hfill⟩ := fillPieces_parts (isSome_filled? hstray hvalues) h
    cases hend
    rw [condition_eq, hfill]
    simp [piecesFrom, fillPieces, Except.map]
  · rintro front n back rfl hstray hvalues hn
    obtain ⟨r, t, -, hhole, hfill⟩ := fillPieces_parts (isSome_filled? hstray hvalues) h
    have hnone : valueIn values (String.ofList n) = none := by rw [valueIn, hn]; rfl
    rw [condition_eq, hfill, fillPieces_hole hhole hnone]
    rfl
  · rintro front back rfl hvalues
    -- an earlier stray dollar sign would be the one that is met
    have hfirst : ∃ front' back', front ++ .stray :: back = front' ++ .stray :: back' ∧
        .stray ∉ front' ∧ ∀ p ∈ front', p ∈ front := by
      by_cases hstray : .stray ∈ front
      · obtain ⟨front', back', rfl, hfront⟩ := List.eq_append_cons_of_mem hstray
        refine ⟨front', back' ++ .stray :: back, ?_, hfront, fun p => List.mem_append_left _⟩
        rw [List.append_assoc, List.cons_append]
      · exact ⟨front, back, rfl, hstray, fun p => id⟩
    obtain ⟨front', back', hsplit, hstray, hsub⟩ := hfirst
    rw [hsplit] at h
    obtain ⟨r, t, ht, hrest, hfill⟩ := fillPieces_parts
      (isSome_filled? hstray fun n hn => hvalues n (hsub _ hn)) h
    cases hrest with
    | @stray _ after hnothing rest =>
      refine ⟨r, after, ht, hnothing, ?_⟩
      have htake : template.toList.take (0 + r.length + 1) = r ++ ['$'] := by
        rw [ht, Nat.zero_add, List.take_length_add_append]
        rfl
      rw [condition_eq, hfill, piecesFrom_stray hnothing, fillPieces, htake]
      rfl

/-- A dollar sign in a value is not read again, and neither is one that is written twice. -/
theorem condition_of_written_dollars :
    let parts := [.hole ['a'], .text ['$'], .hole ['b'], .text ['\x7b', 'c', '\x7d']]
    Written parts "$a$$$\x7bb\x7d\x7bc\x7d".toList ∧
      condition "$a$$$\x7bb\x7d\x7bc\x7d" [("a", "$b"), ("b", "1")] = .ok "$b$1\x7bc\x7d" ∧
      condition "$a$$$\x7bb\x7d\x7bc\x7d" [("b", "1")] = .error (.undefinedName "a") ∧
      Written [.hole ['a'], .text [' '], .stray, .text ['5']] "$a $5".toList ∧
      ∃ line column, condition "$a $5" [("a", "1")] = .error (.strayDollar line column) := by
  intro parts
  have hname (c : Char) (hc : (isNameStart c && isNameChar c) = true) : IsName [c] := by
    rw [Bool.and_eq_true] at hc
    exact ⟨hc.1, List.forall_mem_singleton.mpr hc.2⟩
  have hwritten : Written parts "$a$$$\x7bb\x7d\x7bc\x7d".toList :=
    .bare (hname 'a' rfl) (by rintro _ ⟨⟩; rfl) (.text ['$']
      (.braced (hname 'b' rfl) (.text ['\x7b', 'c', '\x7d'] .nil)))
  have hnothing : BeginsNothing ['5'] := by
    refine ⟨fun r h => absurd (List.cons.inj h).1 (by decide), fun n r hn h => ?_, fun n r _ h =>
      absurd (List.cons.inj h).1 (by decide)⟩
    obtain ⟨c, m, rfl, hc⟩ := hn.exists_cons
    rw [← (List.cons.inj h).1] at hc
    exact absurd hc (by decide)
  have hstray : Written [.hole ['a'], .text [' '], .stray, .text ['5']] "$a $5".toList :=
    .bare (hname 'a' rfl) (by rintro _ ⟨⟩; rfl)
      (.text [' '] (.stray hnothing (.text ['5'] .nil)))
  refine ⟨hwritten, ?_, ?_, hstray, ?_⟩
  · refine ((condition_of_written _ [("a", "$b"), ("b", "1")]).2 parts hwritten).1 (by decide) ?_
    simp only [parts, List.mem_cons, Part.hole.injEq]
    rintro n (rfl | h | rfl | h | h)
    · rfl
    · cases h
    · rfl
    · cases h
    · cases h
  · exact ((condition_of_written _ [("b", "1")]).2 parts hwritten).2.1 [] ['a'] _ rfl (by decide)
      (by simp) (by decide)
  · have hdefined : ∀ n, .hole n ∈ [Part.hole ['a'], .text [' ']] →
        (Assoc.get? (String.ofList n) [("a", "1")]).isSome := by
      simp only [List.mem_cons, Part.hole.injEq]
      rintro n (rfl | h | h)
      · rfl
      · cases h
      · cases h
    obtain ⟨_, _, -, -, herror⟩ := ((condition_of_written _ [("a", "1")]).2 _ hstray).2.2
      [.hole ['a'], .text [' ']] [.text ['5']] rfl hdefined
    exact ⟨_, _, herror⟩

end DeployOptions.Alert
