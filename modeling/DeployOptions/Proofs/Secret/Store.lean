import DeployOptions.Proofs.Text.Base64
import DeployOptions.Proofs.Text.Utf8
import DeployOptions.Secret.Store

/-! What a store holds after a field is saved: the new text, and for the rest what it held. -/
namespace DeployOptions

/-- A text is the same key as itself only. -/
theorem Value.sameKey_str {v : Value} {s : String} : v.sameKey (.str s) = true ↔ v = .str s := by
  cases v with
  | str t => simp [sameKey, order?]
  | float x => simp [sameKey, order?, integer?]
  | _ => simp [sameKey, order?, integer?]

theorem Value.str_sameKey {v : Value} {s : String} :
    (Value.str s).sameKey v = true ↔ v = .str s := by
  cases v with
  | str t => simpa [sameKey, order?] using eq_comm
  | float x => simp [sameKey, order?, integer?]
  | _ => simp [sameKey, order?, integer?]

/-- What is the same key as anything is the same key as itself; a NaN is not. -/
theorem Value.sameKey_self {n k : Value} (h : n.sameKey k = true) : k.sameKey k = true := by
  cases k with
  | null => rfl
  | bool _ | int _ | str _ | bytes _ | date _ => simp [sameKey, order?, integer?]
  | timestamp _ => simp [sameKey, order?]
  | float x =>
    cases x with
    | nan =>
      have hnan (y : Binary64) : y.compare .nan = none := by cases y <;> rfl
      cases n <;> simp [sameKey, order?, integer?, hnan, Binary64.compareInt] at h
    | infinite _ | finite _ _ _ => simp [sameKey, order?, Binary64.compare]
  | list _ | pair _ _ | map _ | set _ | knot _ _ | again _ _ =>
    cases n <;> simp [sameKey, order?, integer?] at h

namespace Secret

theorem encode_ascii (value : String) : ∀ c ∈ (encode value).toList, c.toNat < 0x80 := by
  intro c hc
  rw [encode, String.toList_ofList] at hc
  exact Text.Base64.encode_ascii _ c hc

theorem not_foreign_of_ascii {text : String} (h : ∀ c ∈ text.toList, c.toNat < 0x80) :
    ¬ (text.toList.any fun c => 0x80 ≤ c.toNat) = true := by
  rw [List.any_eq_true]
  rintro ⟨c, hc, hforeign⟩
  have := h c hc
  simp only [decide_eq_true_eq] at hforeign
  omega

/-- A stored value is read back as it is. -/
theorem decode_encode (field secret : String) (namespaceName : Value) (value : String) :
    decode field secret namespaceName (encode value) = .ok value := by
  rw [decode, if_neg (not_foreign_of_ascii (encode_ascii value)), encode, String.toList_ofList,
    Text.Base64.decode_encode]
  simp only [Text.Utf8.decode_encode, String.ofList_toList]

/-- A text that does not decode is not ASCII, or the error names its field. -/
theorem decode_error {field secret text : String} {namespaceName : Value} {f : Failure}
    (h : decode field secret namespaceName text = .error f) :
    f = .foreignStoredText ∨
      ∃ fault, f = .options ⟨.fieldUndecodable field secret namespaceName fault, []⟩ := by
  unfold decode at h
  split at h
  · cases h
    exact .inl rfl
  · split at h
    · cases h
      exact .inr ⟨_, rfl⟩
    · split at h
      · cases h
        exact .inr ⟨_, rfl⟩
      · cases h

end Secret

namespace Store

variable {ns : String} {k : Value}

theorem secretsIn_putSecrets (k : Value) (secrets : List (String × Option SecretFields))
    (s : Store) :
    (s.putSecrets k secrets).secretsIn k = if k.sameKey k = true then secrets else [] := by
  induction s with
  | nil => rfl
  | cons e s ih =>
    obtain ⟨n, old⟩ := e
    by_cases h : n.sameKey k = true
    · simp [putSecrets, secretsIn, h, Value.sameKey_self h]
    · simpa [putSecrets, secretsIn, h] using ih

theorem secretsIn_of_not_sameKey (hk : ¬ k.sameKey k = true) (s : Store) :
    s.secretsIn k = [] := by
  induction s with
  | nil => rfl
  | cons e s ih =>
    obtain ⟨n, old⟩ := e
    have hn : ¬ n.sameKey k = true := fun h => hk (Value.sameKey_self h)
    simpa [secretsIn, hn] using ih

theorem secretsIn_putSecrets_of_ne (hk : k ≠ .str ns)
    (secrets : List (String × Option SecretFields)) (s : Store) :
    (s.putSecrets (.str ns) secrets).secretsIn k = s.secretsIn k := by
  have hother : ¬ (Value.str ns).sameKey k = true := fun h => hk (Value.str_sameKey.mp h)
  induction s with
  | nil => simp [putSecrets, secretsIn, hother]
  | cons e s ih =>
    obtain ⟨n, old⟩ := e
    by_cases h : n.sameKey (.str ns) = true
    · have hn := Value.sameKey_str.mp h
      subst hn
      simp [putSecrets, secretsIn, h, hother]
    · by_cases hn : n.sameKey k = true
      · simp [putSecrets, secretsIn, h, hn]
      · simpa [putSecrets, secretsIn, h, hn] using ih

/-- A secret that is put is there, under a key that anything can be found under. -/
theorem secret?_putSecret_key (k : Value) (secret name : String) (fields : Option SecretFields)
    (s : Store) :
    (s.putSecret k secret fields).secret? k name =
      if k.sameKey k = true then (if secret = name then some fields else s.secret? k name)
      else none := by
  rw [secret?, putSecret, secretsIn_putSecrets]
  split
  · rw [Assoc.get?_put]
    rfl
  · rfl

/-- Putting a secret leaves every other one as it is. -/
theorem secret?_putSecret (secret name : String) (fields : Option SecretFields) (s : Store) :
    (s.putSecret (.str ns) secret fields).secret? (.str ns) name =
      if secret = name then some fields else s.secret? (.str ns) name := by
  rw [secret?_putSecret_key, if_pos (Value.sameKey_str.mpr rfl)]

/-- Putting a secret leaves every other namespace as it is. -/
theorem secret?_putSecret_of_ne (hk : k ≠ .str ns) (secret name : String)
    (fields : Option SecretFields) (s : Store) :
    (s.putSecret (.str ns) secret fields).secret? k name = s.secret? k name := by
  rw [secret?, putSecret, secretsIn_putSecrets_of_ne hk]
  rfl

section AnyKey

variable (k : Value) (secret field value : String) (s : Store)

theorem secret?_createSecret_isSome :
    ((s.createSecret k secret field value).secret? k secret).isSome = k.sameKey k := by
  rw [createSecret, secret?_putSecret_key, if_pos rfl]
  cases k.sameKey k <;> rfl

theorem secret?_putField_isSome :
    ((s.putField k secret field value).secret? k secret).isSome = k.sameKey k := by
  rw [putField, secret?_putSecret_key, if_pos rfl]
  cases k.sameKey k <;> rfl

/-- A new secret has no other field than the one it was made with. -/
theorem field?_createSecret (f : String) :
    (s.createSecret k secret field value).field? k secret f =
      if k.sameKey k = true ∧ field = f then some (Secret.encode value) else none := by
  rw [createSecret, field?, secret?_putSecret_key, if_pos rfl]
  by_cases hk : k.sameKey k = true
  · by_cases hf : field = f <;> simp [hk, hf, Assoc.get?]
  · simp [hk]

/-- A field that is put holds the new text, and all other fields of the secret what they held. -/
theorem field?_putField (f : String) :
    (s.putField k secret field value).field? k secret f =
      if k.sameKey k = true ∧ field = f then some (Secret.encode value)
      else s.field? k secret f := by
  rw [putField, field?, secret?_putSecret_key, if_pos rfl]
  by_cases hk : k.sameKey k = true
  · rw [if_pos hk]
    refine (Assoc.get?_put _ _ _ _).trans ?_
    by_cases hf : field = f
    · rw [if_pos hf, if_pos ⟨hk, hf⟩]
    · rw [if_neg hf, if_neg fun h => hf h.2, field?]
      cases (s.secret? k secret).bind id <;> rfl
  · simp [hk, field?, secret?, secretsIn_of_not_sameKey hk, Assoc.get?]

end AnyKey

def save (namespaceName : Value) (secret field value : String) (s : Store) : Store :=
  if (s.secret? namespaceName secret).isSome then s.putField namespaceName secret field value
  else s.createSecret namespaceName secret field value

private theorem exists_save (k : Value) (secret field value : String) (s : Store) :
    ∃ fields, s.save k secret field value = s.putSecret k secret fields := by
  unfold save
  split
  · exact ⟨_, rfl⟩
  · exact ⟨_, rfl⟩

variable (secret field value : String) (s : Store)

/-- A saved field holds the new text, and all other fields of the secret hold what they held. -/
theorem field?_save (f : String) :
    (s.save (.str ns) secret field value).field? (.str ns) secret f =
      if field = f then some (Secret.encode value) else s.field? (.str ns) secret f := by
  have hself : (Value.str ns).sameKey (.str ns) = true := Value.sameKey_str.mpr rfl
  unfold save
  split
  · simp only [field?_putField, hself, true_and]
  · next h =>
    rw [Option.not_isSome_iff_eq_none] at h
    have hnone : s.field? (.str ns) secret f = none := by
      rw [field?, h]
      rfl
    simp only [field?_createSecret, hself, true_and, hnone]

theorem field?_save_self :
    (s.save (.str ns) secret field value).field? (.str ns) secret field =
      some (Secret.encode value) := by
  rw [field?_save, if_pos rfl]

/-- Saving a field touches no other secret of the namespace. -/
theorem secret?_save {name : String} (h : secret ≠ name) :
    (s.save (.str ns) secret field value).secret? (.str ns) name = s.secret? (.str ns) name := by
  obtain ⟨fields, hsave⟩ := exists_save (.str ns) secret field value s
  rw [hsave, secret?_putSecret, if_neg h]

/-- Saving a field touches no other namespace. -/
theorem secret?_save_of_ne (hk : k ≠ .str ns) (name : String) :
    (s.save (.str ns) secret field value).secret? k name = s.secret? k name := by
  obtain ⟨fields, hsave⟩ := exists_save (.str ns) secret field value s
  rw [hsave, secret?_putSecret_of_ne hk]

/-- The secret of a saved field is there. -/
theorem secret?_save_isSome :
    ((s.save (.str ns) secret field value).secret? (.str ns) secret).isSome = true := by
  obtain ⟨fields, hsave⟩ := exists_save (.str ns) secret field value s
  rw [hsave, secret?_putSecret, if_pos rfl]
  rfl

/-- The value of a field that is stored, if it is; a text that does not decode has none. -/
def value? (namespaceName : Value) (secret field : String) (s : Store) :
    Except Failure (Option String) :=
  match s.field? namespaceName secret field with
  | none => .ok none
  | some text => (Secret.decode field secret namespaceName text).map some

section Value

variable {namespaceName : Value} {secret field value : String} {s : Store}

theorem value?_eq_none_iff :
    s.value? namespaceName secret field = .ok none ↔
      s.field? namespaceName secret field = none := by
  unfold value?
  split
  · next h => simp [h]
  · next text h =>
    cases Secret.decode field secret namespaceName text <;> simp [h, Except.map]

theorem value?_of_encode
    (h : s.field? namespaceName secret field = some (Secret.encode value)) :
    s.value? namespaceName secret field = .ok (some value) := by
  simp only [value?, h, Secret.decode_encode, Except.map]

/-- A value that can be read is what a stored text stands for. -/
theorem exists_field?_of_value?
    (h : s.value? namespaceName secret field = .ok (some value)) :
    ∃ text, s.field? namespaceName secret field = some text ∧
      Secret.decode field secret namespaceName text = .ok value := by
  unfold value? at h
  split at h
  · cases h
  · next text hfield =>
    refine ⟨text, hfield, ?_⟩
    cases hdecode : Secret.decode field secret namespaceName text with
    | error f => rw [hdecode] at h; cases h
    | ok found => rw [hdecode] at h; cases h; rfl

theorem decode_of_value? {text : String}
    (h : s.value? namespaceName secret field = .ok (some value))
    (htext : s.field? namespaceName secret field = some text) :
    Secret.decode field secret namespaceName text = .ok value := by
  obtain ⟨found, hfound, hdecode⟩ := exists_field?_of_value? h
  rw [htext] at hfound
  cases hfound
  exact hdecode

theorem field?_isSome_of_value?
    (h : s.value? namespaceName secret field = .ok (some value)) :
    (s.field? namespaceName secret field).isSome := by
  obtain ⟨text, htext, -⟩ := exists_field?_of_value? h
  rw [htext]
  rfl

/-- What cannot be read is a text that does not decode, and the error names its field. -/
theorem value?_error {f : Failure}
    (h : s.value? namespaceName secret field = .error f) :
    f = .foreignStoredText ∨
      ∃ fault, f = .options ⟨.fieldUndecodable field secret namespaceName fault, []⟩ := by
  unfold value? at h
  split at h
  · cases h
  · next text _ =>
    cases hdecode : Secret.decode field secret namespaceName text with
    | error g =>
      rw [hdecode] at h
      cases h
      exact Secret.decode_error hdecode
    | ok value =>
      rw [hdecode] at h
      cases h

end Value

/-- A saved value is the value of its field from then on. -/
theorem value?_save (f : String) :
    (s.save (.str ns) secret field value).value? (.str ns) secret f =
      if field = f then .ok (some value) else s.value? (.str ns) secret f := by
  by_cases h : field = f
  · rw [if_pos h]
    exact value?_of_encode (by rw [field?_save, if_pos h])
  · rw [value?, field?_save, if_neg h, if_neg h, value?]

end Store
end DeployOptions
