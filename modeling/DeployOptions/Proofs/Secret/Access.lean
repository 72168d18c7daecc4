import DeployOptions.Proofs.Console.Line
import DeployOptions.Proofs.Run
import DeployOptions.Proofs.Secret.Store
import DeployOptions.Secret.Source

/-! Reading and writing the fields of a secret where no call meets a fault: the outcome, and the
world that is left behind. -/
namespace DeployOptions

namespace Notice

def reading (ns secret : String) : Notice :=
  .spinner ("Reading secret " ++ ns ++ "/" ++ secret ++ "...")

def stored (secret field : String) : Notice :=
  .step ("Stored generated default for " ++ Console.highlight (secret ++ "/" ++ field))

/-- A spinner has no other failure than faulty markup. -/
theorem lines_reading (ns secret : String) :
    (reading ns secret).lines = .ok [] ∨ ∃ f, (reading ns secret).lines = .error (.markup f) := by
  rw [reading, lines]
  split
  · exact .inl rfl
  · exact .inr ⟨_, rfl⟩

theorem lines_reading_of_not_mem {ns secret : String} (hns : '[' ∉ ns.toList)
    (hsecret : '[' ∉ secret.toList) : (reading ns secret).lines = .ok [] := by
  apply lines_spinner
  have hplain (front back : List Char) (hfront : '[' ∉ front) (hback : Console.isPlain back = true)
      (hne : back ≠ []) :
      Console.isPlain (front ++ ns.toList ++ '/' :: (secret.toList ++ back)) = true := by
    obtain ⟨hbracket, hlast⟩ := Console.isPlain_iff.mp hback
    refine Console.isPlain_iff.mpr ⟨by simp [hfront, hns, hsecret, hbracket], ?_⟩
    have hend : front ++ ns.toList ++ '/' :: (secret.toList ++ back) =
        (front ++ ns.toList ++ '/' :: secret.toList) ++ back := by simp
    rw [hend, List.getLast?_append, List.getLast?_eq_some_getLast hne, Option.some_or,
      ← List.getLast?_eq_some_getLast hne]
    exact hlast
  have := hplain "Reading secret ".toList "...".toList (by decide) (by decide) (by decide)
  simpa [String.toList_append] using this

theorem lines_stored {secret field : String} (hsecret : '[' ∉ secret.toList)
    (hfield : '[' ∉ field.toList) : ∃ rows, (stored secret field).lines = .ok rows :=
  lines_step (by decide) (by simp [String.toList_append, hsecret, hfield])

end Notice

namespace Call

def apply : Call → Store → Store
  | .read .., s => s
  | .create namespaceName secret field value, s => s.createSecret namespaceName secret field value
  | .patch namespaceName secret field value, s => s.putField namespaceName secret field value

def save (namespaceName : Value) (secret field value : String) (s : Store) : Call :=
  if (s.secret? namespaceName secret).isSome then .patch namespaceName secret field value
  else .create namespaceName secret field value

theorem apply_save (namespaceName : Value) (secret field value : String) (s : Store) :
    (save namespaceName secret field value s).apply s =
      s.save namespaceName secret field value := by
  unfold save Store.save
  split <;> rfl

end Call

namespace World

def afterRead (ns secret : String) (w : World) : World :=
  { w with
    calls := w.calls ++ [.read (.str ns) secret]
    notices := w.notices ++ [.reading ns secret] }

def afterSave (ns secret field value : String) (w : World) : World :=
  { w with
    calls := w.calls ++ [.read (.str ns) secret, .save (.str ns) secret field value w.store]
    notices := w.notices ++ [.reading ns secret, .stored secret field]
    store := w.store.save (.str ns) secret field value }

end World

namespace Secret
open Run

variable {ns secret : String} {w : World}

private theorem exec_beginCall (hw : w.faults = []) (verb : Verb) (call : Call) :
    exec (beginCall verb call) w = (.ok none, { w with calls := w.calls ++ [call] }) := by
  unfold beginCall
  rw [exec_bind_ok (exec_modify _ _), exec_bind_ok (exec_get _)]
  simp only [hw, Assoc.get?, exec_pure]

/-- A secret is read as it is stored. -/
theorem exec_read? (hw : w.faults = []) (hprint : (Notice.reading ns secret).lines = .ok []) :
    exec (read? (.str ns) secret) w =
      (.ok (w.store.secret? (.str ns) secret), w.afterRead ns secret) := by
  have hsay : exec (Run.say (.reading ns secret)) w =
      (.ok (), { w with notices := w.notices ++ [.reading ns secret] }) :=
    exec_say_of_lines hprint w
  have hwritable : (Value.str ns).isWritable = true := rfl
  unfold read?
  rw [hwritable]
  refine (exec_bind_ok (exec_pure _ _) _).trans ((exec_bind_ok hsay _).trans ?_)
  refine (exec_bind_ok (exec_beginCall ?_ _ _) _).trans ?_
  · exact hw
  · exact exec_bind_ok (exec_get _) _

/-- Nothing is read where the spinner cannot be printed. -/
theorem exec_read?_of_error {f : Failure} (hprint : (Notice.reading ns secret).lines = .error f) :
    exec (read? (.str ns) secret) w =
      (.error f, { w with notices := w.notices ++ [.reading ns secret] }) := by
  have hsay : exec (Run.say (.reading ns secret)) w =
      (.error f, { w with notices := w.notices ++ [.reading ns secret] }) := by
    rw [exec_say, hprint]
    rfl
  have hwritable : (Value.str ns).isWritable = true := rfl
  unfold read?
  rw [hwritable]
  exact (exec_bind_ok (exec_pure _ _) _).trans (exec_bind_error hsay _)

/-- Where no read is answered, this is noted and comes to nothing more. -/
theorem exec_read?_of_unreachable {reason : String}
    (hprint : (Notice.reading ns secret).lines = .ok [])
    (hfault : Assoc.get? Verb.read w.faults = some (.unreachable reason, none)) :
    exec (read? (.str ns) secret) w =
      (.error (.options ⟨.unreachable reason, []⟩), w.afterRead ns secret) := by
  have hsay : exec (Run.say (.reading ns secret)) w =
      (.ok (), { w with notices := w.notices ++ [.reading ns secret] }) :=
    exec_say_of_lines hprint w
  have hbegin (v : World) (hv : v.faults = w.faults) (call : Call) :
      exec (beginCall .read call) v =
        (.ok (some (.unreachable reason)), { v with calls := v.calls ++ [call] }) := by
    unfold beginCall
    rw [exec_bind_ok (exec_modify _ _), exec_bind_ok (exec_get _)]
    simp only [hv, hfault, exec_pure]
  have hwritable : (Value.str ns).isWritable = true := rfl
  unfold read?
  rw [hwritable]
  refine (exec_bind_ok (exec_pure _ _) _).trans ((exec_bind_ok hsay _).trans ?_)
  refine (exec_bind_ok (hbegin _ ?_ _) _).trans ?_
  · rfl
  · rfl

/-- A lookup gives the stored value and leaves the store as it is. -/
theorem exec_lookup (hw : w.faults = []) (hprint : (Notice.reading ns secret).lines = .ok [])
    (field : String) :
    exec (lookup (.str ns) secret field) w =
      (w.store.value? (.str ns) secret field, w.afterRead ns secret) := by
  unfold lookup
  rw [exec_bind_ok (exec_read? hw hprint), Store.value?, Store.field?]
  cases (Option.bind (w.store.secret? (.str ns) secret) id).bind (Assoc.get? field) with
  | none => rfl
  | some text =>
    simp only
    cases h : decode field secret (.str ns) text with
    | error f => rw [exec_bind_error (exec_ofExcept _ _)]; rfl
    | ok value => rw [exec_bind_ok (exec_ofExcept _ _)]; rfl

theorem exec_lookup_of_error {f : Failure} (hprint : (Notice.reading ns secret).lines = .error f)
    (field : String) :
    exec (lookup (.str ns) secret field) w =
      (.error f, { w with notices := w.notices ++ [.reading ns secret] }) :=
  exec_bind_error (exec_read?_of_error hprint) _

/-- A persisted value is saved in the store. -/
theorem exec_persist {field : String} (hw : w.faults = [])
    (hreading : (Notice.reading ns secret).lines = .ok []) {rows : List (List Char)}
    (hstored : (Notice.stored secret field).lines = .ok rows) (value : String) :
    exec (persist (.str ns) secret field value) w =
      (.ok (), w.afterSave ns secret field value) := by
  have hwrite : exec (write (w.store.secret? (.str ns) secret).isSome (.str ns) secret field value)
      (w.afterRead ns secret) = (.ok (), { w.afterRead ns secret with
        calls := (w.afterRead ns secret).calls ++ [.save (.str ns) secret field value w.store]
        store := w.store.save (.str ns) secret field value }) := by
    have hcall (verb : Verb) (call : Call) :=
      exec_beginCall (w := w.afterRead ns secret) hw verb call
    unfold write Call.save Store.save
    cases (w.store.secret? (.str ns) secret).isSome with
    | true =>
      refine (exec_bind_ok (hcall _ _) _).trans ?_
      rfl
    | false =>
      refine (exec_bind_ok (hcall _ _) _).trans ?_
      rfl
  unfold persist
  rw [exec_bind_ok (exec_read? hw hreading), exec_bind_ok hwrite]
  refine (exec_say (.stored secret field) _).trans ?_
  rw [hstored]
  simp [World.afterRead, World.afterSave, Except.map]

end Secret
end DeployOptions
