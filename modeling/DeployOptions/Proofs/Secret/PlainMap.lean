import DeployOptions.Proofs.Secret.Calls
import Mathlib.Data.List.Forall2

/-! A source of secrets as a plain map: lookups and writes through a cluster, with its encoded texts
and its three kinds of absence, answer as a map from fields to values does. -/
namespace DeployOptions

abbrev PlainMap := String → String → Option String

def PlainMap.set (secret field value : String) (m : PlainMap) : PlainMap := fun s f =>
  if secret = s ∧ field = f then some value else m s f

namespace Store

variable {ns : String} {s : Store} {m : PlainMap}

/-- Every field of a namespace can be read, and has its value in the map. -/
def Holds (ns : String) (s : Store) (m : PlainMap) : Prop :=
  ∀ secret field, s.value? (.str ns) secret field = .ok (m secret field)

def contents (ns : String) (s : Store) : PlainMap := fun secret field =>
  match s.value? (.str ns) secret field with
  | .ok found => found
  | .error _ => none

/-- A store whose texts decode holds its values. -/
theorem holds_contents (hdecode : ∀ secret field text,
    s.field? (.str ns) secret field = some text →
      ∃ value, Secret.decode field secret (.str ns) text = .ok value) :
    s.Holds ns (s.contents ns) := by
  intro secret field
  have hfound : ∃ found, s.value? (.str ns) secret field = .ok found := by
    cases hfield : s.field? (.str ns) secret field with
    | none => exact ⟨none, value?_eq_none_iff.mpr hfield⟩
    | some text =>
      obtain ⟨value, hvalue⟩ := hdecode secret field text hfield
      exact ⟨some value, by simp only [value?, hfield, hvalue, Except.map]⟩
  obtain ⟨found, hfound⟩ := hfound
  rw [contents, hfound]

theorem field?_save_of_ne {secret field name f : String} (value : String)
    (hne : (secret, field) ≠ (name, f)) :
    (s.save (.str ns) secret field value).field? (.str ns) name f =
      s.field? (.str ns) name f := by
  by_cases hsecret : secret = name
  · subst hsecret
    rw [field?_save, if_neg fun he => hne (by rw [he])]
  · rw [field?, secret?_save secret field value s hsecret]
    rfl

/-- Saving a field sets its entry. -/
theorem Holds.save (h : s.Holds ns m) (secret field value : String) :
    (s.save (.str ns) secret field value).Holds ns (m.set secret field value) := by
  intro name f
  by_cases he : secret = name ∧ field = f
  · obtain ⟨rfl, rfl⟩ := he
    rw [value?_save, if_pos rfl, PlainMap.set, if_pos ⟨rfl, rfl⟩]
  · have hne : (secret, field) ≠ (name, f) := fun h => he (by simpa using h)
    rw [value?, field?_save_of_ne value hne, PlainMap.set, if_neg he]
    exact h name f

/-- Calls that create a secret where there is none, and patch one that is there. -/
def Fits : Store → List Call → Prop
  | _, [] => True
  | s, c :: r =>
    (∀ field, c.writes field = true →
      (c.creates = true ↔ s.secret? c.target.1 c.target.2 = none)) ∧ Fits (c.apply s) r

theorem Fits.append {calls more : List Call} (h : s.Fits calls)
    (hmore : (s.replay calls).Fits more) : s.Fits (calls ++ more) := by
  induction calls generalizing s with
  | nil => exact hmore
  | cons c calls ih => exact ⟨h.1, ih h.2 hmore⟩

/-- Each call of such a log is right for the store that it finds. -/
theorem Fits.at {before after : List Call} {c : Call} (h : s.Fits (before ++ c :: after))
    (field : String) (hwrites : c.writes field = true) :
    c.creates = true ↔ (s.replay before).secret? c.target.1 c.target.2 = none := by
  induction before generalizing s with
  | nil => exact h.1 field hwrites
  | cons d before ih => exact ih h.2

theorem fits_save (secret field value : String) :
    s.Fits [.save (.str ns) secret field value s] := by
  refine ⟨fun f _ => ?_, trivial⟩
  rw [Call.creates_save, Call.target_save]
  simp

end Store

namespace Secret
open Run

inductive Action
  | lookup
  | persist (value : String)
  | required
  | valueOr (default : String)
deriving DecidableEq, Repr

structure Operation where
  secret : String
  field : String
  action : Action
deriving DecidableEq, Repr

inductive Answer
  | found (value? : Option String)
  | stored
  | value (value : String)
deriving DecidableEq, Repr

namespace Operation

def run (namespaceName : Value) (op : Operation) : Run Answer :=
  match op.action with
  | .lookup => return .found (← Secret.lookup namespaceName op.secret op.field)
  | .persist value => do
    Secret.persist namespaceName op.secret op.field value
    return .stored
  | .required => return .value (← Secret.requiredValue namespaceName op.secret op.field)
  | .valueOr default => return .value (← Secret.valueOr namespaceName op.secret op.field default)

def canSet (op : Operation) : Bool :=
  match op.action with
  | .persist _ | .valueOr _ => true
  | .lookup | .required => false

def onMap (op : Operation) (m : PlainMap) : Except Failure Answer × PlainMap :=
  match op.action, m op.secret op.field with
  | .lookup, found => (.ok (.found found), m)
  | .persist value, _ => (.ok .stored, m.set op.secret op.field value)
  | .required, some value => (.ok (.value value), m)
  | .required, none => (.error (.options ⟨.fieldMissing op.secret op.field, []⟩), m)
  | .valueOr _, some value => (.ok (.value value), m)
  | .valueOr default, none => (.ok (.value default), m.set op.secret op.field default)

end Operation

structure Operation.Leaves (ns : String) (m : PlainMap) (op : Operation) (w w' : World) :
    Prop where
  holds : w'.store.Holds ns (op.onMap m).2
  faults : w'.faults = w.faults
  log : ∃ calls, w'.calls = w.calls ++ calls ∧ w'.store = w.store.replay calls ∧
    w.store.Fits calls
  frame : w'.store = w.store ∨ op.canSet = true ∧
    ∃ value, w'.store = w.store.save (.str ns) op.secret op.field value

namespace Operation

variable {ns : String} {m : PlainMap} {op : Operation} {w w' : World} {value : String}

private theorem leaves_afterRead (h : w.store.Holds ns m) (hmap : (op.onMap m).2 = m) :
    op.Leaves ns m w (w.afterRead ns op.secret) where
  holds := by rw [hmap]; exact h
  faults := rfl
  log := ⟨[.read (.str ns) op.secret], rfl, rfl, ⟨nofun, trivial⟩⟩
  frame := .inl rfl

private theorem leaves_afterSave (h : w.store.Holds ns m) (hset : op.canSet = true)
    (hmap : (op.onMap m).2 = m.set op.secret op.field value) :
    op.Leaves ns m w (w.afterSave ns op.secret op.field value) where
  holds := by rw [hmap]; exact h.save op.secret op.field value
  faults := rfl
  log := by
    refine ⟨[.read (.str ns) op.secret, .save (.str ns) op.secret op.field value w.store], rfl, ?_,
      ⟨nofun, Store.fits_save op.secret op.field value⟩⟩
    exact (Call.apply_save (.str ns) op.secret op.field value w.store).symm
  frame := .inr ⟨hset, value, rfl⟩

/-- A read in front changes nothing. -/
private theorem Leaves.after_read (h : op.Leaves ns m (w.afterRead ns op.secret) w') :
    op.Leaves ns m w w' where
  holds := h.holds
  faults := h.faults
  log := by
    obtain ⟨calls, hcalls, hstore, hfits⟩ := h.log
    refine ⟨.read (.str ns) op.secret :: calls, ?_, hstore, ⟨nofun, hfits⟩⟩
    simp [hcalls, World.afterRead]
  frame := h.frame

/-- Every secret that an operation cannot set anything in stays as it is. -/
theorem Leaves.secret?_eq (h : op.Leaves ns m w w') {k : Value} {name : String}
    (hne : k = .str ns → op.canSet = true → op.secret ≠ name) :
    w'.store.secret? k name = w.store.secret? k name := by
  rcases h.frame with hsame | ⟨hset, value, hsaved⟩
  · rw [hsame]
  · rw [hsaved]
    by_cases hk : k = .str ns
    · subst hk
      exact Store.secret?_save _ _ _ _ (hne rfl hset)
    · exact Store.secret?_save_of_ne _ _ _ _ hk name

/-- Every field that it cannot set keeps its text. -/
theorem Leaves.field?_eq (h : op.Leaves ns m w w') {name f : String}
    (hne : op.canSet = true → (op.secret, op.field) ≠ (name, f)) :
    w'.store.field? (.str ns) name f = w.store.field? (.str ns) name f := by
  rcases h.frame with hsame | ⟨hset, value, hsaved⟩
  · rw [hsame]
  · rw [hsaved, Store.field?_save_of_ne value (hne hset)]

/-- One operation answers as on the map. -/
theorem exec_run (hw : w.faults = []) (hprint : (Notice.reading ns op.secret).lines = .ok [])
    (hstored : ∃ rows, (Notice.stored op.secret op.field).lines = .ok rows)
    (h : w.store.Holds ns m) :
    ∃ w', exec (op.run (.str ns)) w = ((op.onMap m).1, w') ∧ op.Leaves ns m w w' := by
  obtain ⟨secret, field, action⟩ := op
  obtain ⟨rows, hrows⟩ := hstored
  have hlookup := exec_lookup hw hprint field
  rw [h secret field] at hlookup
  cases action with
  | lookup => exact ⟨_, exec_bind_ok hlookup _, leaves_afterRead h rfl⟩
  | persist value =>
    exact ⟨_, exec_bind_ok (exec_persist hw hprint hrows value) _, leaves_afterSave h rfl rfl⟩
  | required =>
    cases hfound : m secret field with
    | some value =>
      rw [hfound] at hlookup
      have hvalue : exec (requiredValue (.str ns) secret field) w =
          (.ok value, w.afterRead ns secret) := exec_bind_ok hlookup _
      have hmap : onMap ⟨secret, field, .required⟩ m = (.ok (.value value), m) := by
        simp only [onMap, hfound]
      rw [hmap]
      exact ⟨_, exec_bind_ok hvalue _, leaves_afterRead h (by rw [hmap])⟩
    | none =>
      rw [hfound] at hlookup
      have hfail : exec (requiredValue (.str ns) secret field) w =
          (.error (.options ⟨.fieldMissing secret field, []⟩), w.afterRead ns secret) :=
        exec_bind_ok hlookup _
      have hmap : onMap ⟨secret, field, .required⟩ m =
          (.error (.options ⟨.fieldMissing secret field, []⟩), m) := by
        simp only [onMap, hfound]
      rw [hmap]
      exact ⟨_, exec_bind_error hfail _, leaves_afterRead h (by rw [hmap])⟩
  | valueOr default =>
    cases hfound : m secret field with
    | some value =>
      rw [hfound] at hlookup
      have hvalue : exec (valueOr (.str ns) secret field default) w =
          (.ok value, w.afterRead ns secret) := exec_bind_ok hlookup _
      have hmap : onMap ⟨secret, field, .valueOr default⟩ m = (.ok (.value value), m) := by
        simp only [onMap, hfound]
      rw [hmap]
      exact ⟨_, exec_bind_ok hvalue _, leaves_afterRead h (by rw [hmap])⟩
    | none =>
      rw [hfound] at hlookup
      have hpersist := exec_persist (w := w.afterRead ns secret) hw hprint hrows default
      have hvalue : exec (valueOr (.str ns) secret field default) w =
          (.ok default, (w.afterRead ns secret).afterSave ns secret field default) :=
        (exec_bind_ok hlookup _).trans (exec_bind_ok hpersist _)
      have hmap : onMap ⟨secret, field, .valueOr default⟩ m =
          (.ok (.value default), m.set secret field default) := by
        simp only [onMap, hfound]
      rw [hmap]
      refine ⟨_, exec_bind_ok hvalue _, Leaves.after_read ?_⟩
      exact leaves_afterSave h rfl (by rw [hmap])

end Operation

/-- The outcome of each operation, and the world that it leaves to the next one. -/
def history (ns : String) (w : World) : List Operation → List (Except Failure Answer × World)
  | [] => []
  | op :: r => exec (op.run (.str ns)) w :: history ns (exec (op.run (.str ns)) w).2 r

def mapHistory (m : PlainMap) : List Operation → List (Except Failure Answer × PlainMap)
  | [] => []
  | op :: r => op.onMap m :: mapHistory (op.onMap m).2 r

variable {ns : String} {m : PlainMap} {w : World} {ops : List Operation}

section Faultless

variable (hw : w.faults = [])
  (hprint : ∀ op ∈ ops, (Notice.reading ns op.secret).lines = .ok [] ∧
    ∃ rows, (Notice.stored op.secret op.field).lines = .ok rows)
include hw hprint

/-- Operations in a row answer as on the map. -/
private theorem forall₂_history (h : w.store.Holds ns m) :
    List.Forall₂ (fun run step => run.1 = step.1 ∧ run.2.store.Holds ns step.2)
      (history ns w ops) (mapHistory m ops) := by
  induction ops generalizing w m with
  | nil => exact .nil
  | cons op ops ih =>
    simp only [List.forall_mem_cons] at hprint
    obtain ⟨w', hrun, hleaves⟩ := op.exec_run hw hprint.1.1 hprint.1.2 h
    rw [history, mapHistory, hrun]
    exact .cons ⟨rfl, hleaves.holds⟩ (ih (hleaves.faults.trans hw) hprint.2 hleaves.holds)

/-- The calls of operations in a row, and what they leave as it is. -/
private theorem log_history (h : w.store.Holds ns m) : ∀ run ∈ history ns w ops,
    (∃ calls, run.2.calls = w.calls ++ calls ∧ run.2.store = w.store.replay calls ∧
      w.store.Fits calls) ∧
    (∀ k name, (k = .str ns → ∀ op ∈ ops, op.canSet = true → op.secret ≠ name) →
      run.2.store.secret? k name = w.store.secret? k name) ∧
    ∀ name f, (∀ op ∈ ops, op.canSet = true → (op.secret, op.field) ≠ (name, f)) →
      run.2.store.field? (.str ns) name f = w.store.field? (.str ns) name f := by
  induction ops generalizing w m with
  | nil => simp [history]
  | cons op ops ih =>
    simp only [List.forall_mem_cons] at hprint
    obtain ⟨w', hrun, hleaves⟩ := op.exec_run hw hprint.1.1 hprint.1.2 h
    obtain ⟨calls, hcalls, hstore, hfits⟩ := hleaves.log
    intro run hmem
    rw [history, hrun] at hmem
    rcases List.mem_cons.mp hmem with rfl | hmem
    · refine ⟨⟨calls, hcalls, hstore, hfits⟩, fun k name hne => ?_, fun name f hne => ?_⟩
      · exact hleaves.secret?_eq fun hk => hne hk op List.mem_cons_self
      · exact hleaves.field?_eq (hne op List.mem_cons_self)
    · obtain ⟨⟨more, hmore, hlater, hrest⟩, hsecrets, hfields⟩ :=
        ih (hleaves.faults.trans hw) hprint.2 hleaves.holds run hmem
      refine ⟨⟨calls ++ more, ?_, ?_, ?_⟩, fun k name hne => ?_, fun name f hne => ?_⟩
      · rw [hmore, hcalls, List.append_assoc]
      · rw [hlater, hstore, Store.replay_append]
      · exact hfits.append (hstore ▸ hrest)
      · rw [hsecrets k name fun hk o ho => hne hk o (List.mem_cons_of_mem op ho)]
        exact hleaves.secret?_eq fun hk => hne hk op List.mem_cons_self
      · rw [hfields name f fun o ho => hne o (List.mem_cons_of_mem op ho)]
        exact hleaves.field?_eq (hne op List.mem_cons_self)

end Faultless

/-- On a namespace whose texts decode, a source of secrets answers any operations as a map from
fields to values does, and what is stored after each of them is what the map then holds. Other
namespaces, secrets and fields than those that are set stay as they are, and a write creates the
secret exactly where there is none yet. -/
theorem source_refines_map (hns : '[' ∉ ns.toList) (hw : w.faults = [])
    (hnames : ∀ op ∈ ops, '[' ∉ op.secret.toList ∧ '[' ∉ op.field.toList)
    (hdecode : ∀ secret field text, w.store.field? (.str ns) secret field = some text →
      ∃ value, decode field secret (.str ns) text = .ok value) :
    List.Forall₂ (fun run step => run.1 = step.1 ∧ run.2.store.Holds ns step.2)
      (history ns w ops) (mapHistory (w.store.contents ns) ops) ∧
    ∀ run ∈ history ns w ops,
      (∀ k name, (k = .str ns → ∀ op ∈ ops, op.canSet = true → op.secret ≠ name) →
        run.2.store.secret? k name = w.store.secret? k name) ∧
      (∀ name f, (∀ op ∈ ops, op.canSet = true → (op.secret, op.field) ≠ (name, f)) →
        run.2.store.field? (.str ns) name f = w.store.field? (.str ns) name f) ∧
      ∃ log, run.2.calls = w.calls ++ log ∧ run.2.store = w.store.replay log ∧
        ∀ before c after, log = before ++ c :: after → ∀ field, c.writes field = true →
          (c.creates = true ↔
            (w.store.replay before).secret? c.target.1 c.target.2 = none) := by
  have hholds := Store.holds_contents hdecode
  have hprint : ∀ op ∈ ops, (Notice.reading ns op.secret).lines = .ok [] ∧
      ∃ rows, (Notice.stored op.secret op.field).lines = .ok rows := by
    intro op hop
    obtain ⟨hsecret, hfield⟩ := hnames op hop
    exact ⟨Notice.lines_reading_of_not_mem hns hsecret, Notice.lines_stored hsecret hfield⟩
  refine ⟨forall₂_history hw hprint hholds, fun run hrun => ?_⟩
  obtain ⟨⟨log, hcalls, hstore, hfits⟩, hsecrets, hfields⟩ := log_history hw hprint hholds run hrun
  refine ⟨hsecrets, hfields, log, hcalls, hstore, ?_⟩
  rintro before c after rfl field hwrites
  exact hfits.at field hwrites

/-- A secret without data takes an empty value for a field whose name ends in a backslash, and a
missing field of another secret is an error and nothing more. -/
theorem source_refines_map_null_data :
    (history "test" { store := [(.str "test", [("own", none)])], picks := ⟨fun n => n, 0⟩ }
        [⟨"own", "a\\", .valueOr ""⟩, ⟨"new", "b", .required⟩, ⟨"own", "a\\", .lookup⟩]).map
        (·.1) =
      [.ok (.value ""), .error (.options ⟨.fieldMissing "new" "b", []⟩), .ok (.found (some ""))] := by
  have hnames : ∀ op ∈ [(⟨"own", "a\\", .valueOr ""⟩ : Operation), ⟨"new", "b", .required⟩,
      ⟨"own", "a\\", .lookup⟩], '[' ∉ op.secret.toList ∧ '[' ∉ op.field.toList := by
    decide
  have hdecode : ∀ secret field text, Store.field? (.str "test") secret field
      [(.str "test", [("own", none)])] = some text →
        ∃ value, decode field secret (.str "test") text = .ok value := by
    intro secret field text htext
    have hsecret : Store.secret? (.str "test") secret [(.str "test", [("own", none)])] =
        if "own" = secret then some none else none := rfl
    rw [Store.field?, hsecret] at htext
    split at htext <;> cases htext
  obtain ⟨hanswers, -⟩ := source_refines_map
    (w := { store := [(.str "test", [("own", none)])], picks := ⟨fun n => n, 0⟩ }) (by decide) rfl
    hnames hdecode
  have hsame := List.forall₂_map_left_iff.mpr (List.forall₂_map_right_iff.mpr
    (hanswers.imp fun _ _ h => h.1))
  rw [List.forall₂_eq_eq_eq] at hsame
  exact hsame

end Secret
end DeployOptions
