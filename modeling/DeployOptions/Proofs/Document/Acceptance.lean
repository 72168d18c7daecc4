import DeployOptions.Proofs.Document.Reading

/-! Which documents are accepted, and which error the others end in. -/
namespace DeployOptions.Document

variable {doc : Value}

theorem firstFault_eq_none_iff {l : List Place} :
    firstFault doc l = none ↔ ∀ p ∈ l, p.IsSound doc := by
  simp [firstFault, Place.IsSound]

theorem firstFault_eq_fault {before after : List Place} {p : Place}
    (hbefore : ∀ q ∈ before, q.IsSound doc) (hp : ¬ p.IsSound doc) :
    firstFault doc (before ++ p :: after) = some (p.fault doc) := by
  rw [firstFault_append, firstFault_eq_none_iff.mpr hbefore, firstFault_cons_of_not_sound hp]
  rfl

/-- Whether what is wrong with a place can be put into words: the value may have to be quoted. -/
def Place.isQuotable (doc : Value) (p : Place) : Bool :=
  match p.shape with
  | .toggle | .count => (doc.valueAt p.path).isWritable
  | _ => true

theorem isWritable_fault (p : Place) : (p.fault doc).isWritable = p.isQuotable doc := by
  obtain ⟨path, shape⟩ := p
  cases shape <;> rfl

theorem kind_fault (p : Place) : (p.fault doc).kind = .specParsing := by
  obtain ⟨path, shape⟩ := p
  cases shape <;> rfl

private theorem path_of_name : ∀ p ∈ places, p.shape = .name → p.name = "metadata.name" := by
  decide

private theorem path_of_list :
    ∀ p ∈ places, p.shape = .list → p.name = "spec.imagePullSecrets" := by
  decide

private theorem exists_quoted (name middle rest text : String) (h : middle = "'" ++ rest) :
    ∃ back, "'" ++ name ++ middle ++ text = "'" ++ name ++ "'" ++ back := by
  refine ⟨rest ++ text, ?_⟩
  rw [h]
  simp only [String.append_assoc]

/-- The wording begins with the name of the place. -/
theorem exists_message_fault {p : Place} (hp : p ∈ places) :
    ∃ rest, (p.fault doc).message = "'" ++ p.name ++ "'" ++ rest := by
  cases hshape : p.shape with
  | name =>
    have hfault : p.fault doc = .nameMissing := by rw [Place.fault, hshape]
    rw [hfault, path_of_name p hp hshape]
    exact ⟨" is required", rfl⟩
  | list =>
    have hfault : p.fault doc = .pullSecretsNotList := by rw [Place.fault, hshape]
    rw [hfault, path_of_list p hp hshape]
    exact ⟨" must be a list", rfl⟩
  | mapping | items =>
    have hfault : p.fault doc = .notMapping p.name (p.culprit doc) := by rw [Place.fault, hshape]
    rw [hfault]
    exact exists_quoted _ _ " must be a mapping, got " _ rfl
  | toggle =>
    have hfault : p.fault doc = .notBoolean p.name (p.culprit doc) := by rw [Place.fault, hshape]
    rw [hfault]
    exact exists_quoted _ _ " must be a boolean, got " _ rfl
  | count =>
    have hfault : p.fault doc = .notReplicaCount p.name (p.culprit doc) := by
      rw [Place.fault, hshape]
    rw [hfault]
    exact exists_quoted _ _ " must be a non-negative integer, got " _ rfl

/-- What a document is read as, by the first fault among its places. -/
theorem ofDocument_eq (entries : List (Value × Value)) :
    Manager.ofDocument (.map entries) = match firstFault (.map entries) places with
      | none => .ok (managerAt (.map entries))
      | some cause => .error (Failure.ofCause cause) := by
  have hread := ofEntries_reads entries
  unfold Reads at hread
  rw [Manager.ofDocument, hread]
  cases firstFault (.map entries) places <;> rfl

/-- An accepted document is read as what stands at its places. -/
theorem sound_of_accepted {entries : List (Value × Value)} {m : Manager}
    (h : Manager.ofDocument (.map entries) = .ok m) :
    m = managerAt (.map entries) ∧ ∀ p ∈ places, p.IsSound (.map entries) := by
  rw [ofDocument_eq] at h
  cases hfault : firstFault (.map entries) places with
  | none =>
    rw [hfault] at h
    exact ⟨(Except.ok.inj h).symm, firstFault_eq_none_iff.mp hfault⟩
  | some cause =>
    rw [hfault] at h
    cases h

/-- A document is accepted exactly where all its places are sound. Otherwise the first place that is
not decides: the error says that the document is ill-formed and names this place. Only where the
wrong value would have to be quoted and holds a whole number with too many digits, the failure is
that it cannot be written. -/
theorem first_unsound_place_decides (entries : List (Value × Value)) :
    ((∃ m, Manager.ofDocument (.map entries) = .ok m) ↔
      ∀ p ∈ places, p.IsSound (.map entries)) ∧
    ∀ (before : List Place) (p : Place) (after : List Place), places = before ++ p :: after →
      (∀ q ∈ before, q.IsSound (.map entries)) → ¬ p.IsSound (.map entries) →
        (p.fault (.map entries)).kind = .specParsing ∧
        (∃ rest, (p.fault (.map entries)).message = "'" ++ p.name ++ "'" ++ rest) ∧
        Manager.ofDocument (.map entries) =
          .error (if p.isQuotable (.map entries) then .options ⟨p.fault (.map entries), []⟩
            else .unwritable) := by
  refine ⟨⟨fun ⟨m, hm⟩ => (sound_of_accepted hm).2, fun hsound => ?_⟩, ?_⟩
  · rw [ofDocument_eq, firstFault_eq_none_iff.mpr hsound]
    exact ⟨_, rfl⟩
  · intro before p after hplaces hbefore hp
    have hmem : p ∈ places := by
      rw [hplaces]
      exact List.mem_append_right before List.mem_cons_self
    refine ⟨kind_fault p, exists_message_fault hmem, ?_⟩
    rw [ofDocument_eq, hplaces, firstFault_eq_fault hbefore hp, ← isWritable_fault]
    rfl

/-- A truth value is no count, and an unsound place behind it is not reported. -/
theorem first_unsound_place_decides_replicas :
    ∃ (before after : List Place) (p : Place) (doc : List (Value × Value)),
      places = before ++ p :: after ∧ (∀ q ∈ before, q.IsSound (.map doc)) ∧
      ¬ p.IsSound (.map doc) ∧ p.name = "spec.zync.queSpec.replicas" ∧
      Manager.ofDocument (.map doc) =
        .error (.options ⟨.notReplicaCount "spec.zync.queSpec.replicas" (.bool true), []⟩) := by
  let doc : List (Value × Value) := [(.str "metadata", .map [(.str "name", .str "own")]),
    (.str "spec", .map [(.str "imagePullSecrets", .list [.null]),
      (.str "zync", .map [(.str "queSpec", .map [(.str "replicas", .bool true)])]),
      (.str "apicast", .str "none")])]
  have hplaces : places = places.take 14 ++
      ⟨["spec", "zync", "queSpec", "replicas"], .count⟩ :: places.drop 15 := by decide
  have hbefore : ∀ q ∈ places.take 14, q.IsSound (.map doc) := by decide
  have hp : ¬ Place.IsSound (.map doc) ⟨["spec", "zync", "queSpec", "replicas"], .count⟩ := by
    decide
  exact ⟨_, _, _, doc, hplaces, hbefore, hp, rfl,
    ((first_unsound_place_decides doc).2 _ _ _ hplaces hbefore hp).2.2⟩

/-- A count below zero with too many digits ends in a failure that is no options error. -/
theorem unwritable_of_long_count {n : Int} (hn : n < 0) (hlong : (Value.int n).isWritable = false) :
    Manager.ofDocument (.map [(.str "metadata", .map [(.str "name", .str "own")]),
      (.str "spec", .map [(.str "zync",
        .map [(.str "appSpec", .map [(.str "replicas", .int n)])])])]) = .error .unwritable := by
  let doc : Value := .map [(.str "metadata", .map [(.str "name", .str "own")]),
    (.str "spec", .map [(.str "zync", .map [(.str "appSpec", .map [(.str "replicas", .int n)])])])]
  have hplaces : places = places.take 11 ++
      ⟨["spec", "zync", "appSpec", "replicas"], .count⟩ :: places.drop 12 := by decide
  have hbefore : ∀ q ∈ places.take 11, q.IsSound doc := List.all_eq_true.mp rfl
  have hp : ¬ Place.IsSound doc ⟨["spec", "zync", "appSpec", "replicas"], .count⟩ := by
    intro hsound
    have hcount : decide (0 ≤ n) = true := hsound
    exact absurd (of_decide_eq_true hcount) (Int.not_le.mpr hn)
  rw [ofDocument_eq, hplaces, firstFault_eq_fault hbefore hp]
  refine congrArg Except.error (if_neg ?_)
  rw [isWritable_fault]
  exact Bool.eq_false_iff.mp hlong

/-- A hexadecimal count of more than 4300 digits has at least as many decimal ones. -/
theorem long_count_escapes :
    Manager.ofDocument (.map [(.str "metadata", .map [(.str "name", .str "own")]),
      (.str "spec", .map [(.str "zync", .map [(.str "appSpec",
        .map [(.str "replicas", .int (-Nat.pow 16 Value.mostDigits))])])])]) =
      .error .unwritable := by
  have hpos (k : Nat) : 0 < Nat.pow 16 k := Nat.pow_pos (by decide)
  have hlong (k : Nat) : ¬ (-Nat.pow 16 k : Int).natAbs < Nat.pow 10 k := by
    rw [Int.natAbs_neg, Int.natAbs_natCast]
    exact Nat.not_lt.mpr (Nat.pow_le_pow_left (by decide) k)
  apply unwritable_of_long_count
  · exact Int.neg_neg_of_pos (Int.natCast_pos.mpr (hpos Value.mostDigits))
  · exact decide_eq_false (hlong Value.mostDigits)

end DeployOptions.Document
