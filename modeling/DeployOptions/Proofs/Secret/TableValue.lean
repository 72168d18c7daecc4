import DeployOptions.Proofs.Secret.PlainMap
import DeployOptions.Proofs.Secret.TableRun
import Mathlib.Data.List.Induction

/-! The values that an arbitrary table gives, told from the store before the run. Rows may share
secrets, fields and options: a field has the value that is stored or that its first row makes, and
an option has the value of its last row. -/
namespace DeployOptions.Policy
open Run

abbrev Valued := List (Policy × String)

namespace Valued

def first? (secret field : String) (rows : Valued) : Option String :=
  (rows.find? fun e => e.1.secret = secret ∧ e.1.field = field).map (·.2)

def last? (option : String) (rows : Valued) : Option String :=
  (rows.reverse.find? fun e => e.1.option = option).map (·.2)

def byOption (rows : Valued) : Resolved := rows.foldl (fun r e => Assoc.put e.1.option e.2 r) []

/-- The value of a row behind others: the stored one, or that of the first row of the same field,
or else its default for the values so far. -/
def valueBehind (stored : PlainMap) (made : Policy → Resolved → String) (rows : Valued)
    (p : Policy) : String :=
  ((stored p.secret p.field).or (rows.first? p.secret p.field)).getD (made p rows.byOption)

def extend (stored : PlainMap) (made : Policy → Resolved → String) (rows : Valued) :
    List Policy → Valued
  | [] => rows
  | p :: r => extend stored made (rows ++ [(p, rows.valueBehind stored made p)]) r

variable {rows : Valued} {p : Policy} {value : String}

theorem byOption_append (rows : Valued) (p : Policy) (value : String) :
    byOption (rows ++ [(p, value)]) = Assoc.put p.option value rows.byOption := by
  simp [byOption, List.foldl_append]

theorem get?_byOption (option : String) (rows : Valued) :
    Assoc.get? option rows.byOption = rows.last? option := by
  induction rows using List.reverseRecOn with
  | nil => rfl
  | append_singleton rows e ih =>
    obtain ⟨p, value⟩ := e
    rw [byOption_append, Assoc.get?_put, last?, List.reverse_append]
    by_cases h : p.option = option
    · simp [h]
    · simpa [h, last?] using ih

theorem first?_append (secret field : String) (rows : Valued) (p : Policy) (value : String) :
    first? secret field (rows ++ [(p, value)]) = (rows.first? secret field).or
      (if p.secret = secret ∧ p.field = field then some value else none) := by
  rw [first?, first?, List.find?_append, Option.map_or]
  congr 1
  by_cases h : p.secret = secret ∧ p.field = field <;> simp [h]

theorem first?_eq_none_iff {secret field : String} :
    rows.first? secret field = none ↔
      ∀ q ∈ rows.map Prod.fst, ¬ (q.secret = secret ∧ q.field = field) := by
  simp [first?, List.find?_eq_none]

/-- Every row has the value that its field has in the end. -/
def Settled (stored : PlainMap) (rows : Valued) : Prop :=
  ∀ e ∈ rows, (stored e.1.secret e.1.field).or (rows.first? e.1.secret e.1.field) = some e.2

section Extend

variable {stored : PlainMap} {made : Policy → Resolved → String}

/-- A row that extends others gets the value that its field then has, and changes none of theirs. -/
theorem Settled.append (h : rows.Settled stored) (hvalue : rows.valueBehind stored made p = value) :
    Settled stored (rows ++ [(p, value)]) := by
  intro e he
  rw [first?_append, ← Option.or_assoc]
  rcases List.mem_append.mp he with he | he
  · rw [h e he, Option.some_or]
  · obtain rfl := List.mem_singleton.mp he
    rw [if_pos ⟨rfl, rfl⟩, ← hvalue, valueBehind]
    cases (stored p.secret p.field).or (rows.first? p.secret p.field) <;> rfl

theorem Settled.extend (h : rows.Settled stored) (table : List Policy) :
    (rows.extend stored made table).Settled stored := by
  induction table generalizing rows with
  | nil => exact h
  | cons p table ih => exact ih (h.append rfl)

theorem map_fst_extend (rows : Valued) (table : List Policy) :
    (rows.extend stored made table).map Prod.fst = rows.map Prod.fst ++ table := by
  induction table generalizing rows with
  | nil => simp [Valued.extend]
  | cons p table ih => simp [Valued.extend, ih]

/-- The last row of an option has the value of the option. -/
theorem exists_last?_extend {table : List Policy} {option : String}
    (h : table.reverse.find? (fun q => q.option = option) = some p) :
    ∃ value, (extend stored made [] table).last? option = some value ∧
      (p, value) ∈ extend stored made [] table := by
  have hrows : (extend stored made [] table).map Prod.fst = table := map_fst_extend [] table
  rw [← hrows, ← List.map_reverse, List.find?_map, Option.map_eq_some_iff] at h
  obtain ⟨⟨q, value⟩, hfind, rfl⟩ := h
  refine ⟨value, ?_, List.mem_reverse.mp (List.mem_of_find?_eq_some hfind)⟩
  rw [last?]
  exact Option.map_eq_some_iff.mpr ⟨_, hfind, rfl⟩

end Extend

end Valued

/-- A row that no value can be found for: it is required, its field is not stored, and no row
before it is about the same field. -/
def Blocked (m : Manager) (ns : String) (s : Store) (before : List Policy) (p : Policy) : Prop :=
  p.isRequired m = true ∧ s.field? (.str ns) p.secret p.field = none ∧
    ∀ q ∈ before, ¬ (q.secret = p.secret ∧ q.field = p.field)

/-- A store with the fields of another one, and with the values of rows in fields that were not
there. -/
def FilledBy (ns : String) (s : Store) (rows : Valued) (s' : Store) : Prop :=
  ∀ secret field, s'.field? (.str ns) secret field =
    (s.field? (.str ns) secret field).or ((rows.first? secret field).map Secret.encode)

variable {m : Manager} {ns : String} {s s' : Store} {rows : Valued} {p : Policy} {value : String}

namespace FilledBy

theorem absent_iff (h : FilledBy ns s rows s') (secret field : String) :
    s'.field? (.str ns) secret field = none ↔
      s.field? (.str ns) secret field = none ∧ rows.first? secret field = none := by
  rw [h secret field, Option.or_eq_none_iff, Option.map_eq_none_iff]

/-- What is read from such a store is what was stored before, or else the value of a row. -/
theorem value? (h : FilledBy ns s rows s') {secret field : String}
    (hdecode : ∀ text, s.field? (.str ns) secret field = some text →
      ∃ value, Secret.decode field secret (.str ns) text = .ok value) :
    s'.value? (.str ns) secret field =
      .ok ((s.contents ns secret field).or (rows.first? secret field)) := by
  have hsame := h secret field
  cases hfield : s.field? (.str ns) secret field with
  | none =>
    have hnone : s.contents ns secret field = none := by
      rw [Store.contents, Store.value?_eq_none_iff.mpr hfield]
    rw [hfield, Option.none_or] at hsame
    rw [hnone, Option.none_or, Store.value?, hsame]
    cases rows.first? secret field with
    | none => rfl
    | some value => simp only [Option.map_some, Secret.decode_encode, Except.map]
  | some text =>
    obtain ⟨value, hvalue⟩ := hdecode text hfield
    have hstored : s.value? (.str ns) secret field = .ok (some value) := by
      simp only [Store.value?, hfield, hvalue, Except.map]
    have hcontents : s.contents ns secret field = some value := by
      rw [Store.contents, hstored]
    rw [hfield, Option.some_or] at hsame
    rw [hcontents, Option.some_or, ← hstored, Store.value?, Store.value?, hsame, hfield]

/-- A row whose field is there adds nothing. -/
theorem kept (h : FilledBy ns s rows s')
    (hpresent : s'.field? (.str ns) p.secret p.field ≠ none) (value : String) :
    FilledBy ns s (rows ++ [(p, value)]) s' := by
  intro secret field
  rw [h secret field, Valued.first?_append]
  by_cases hp : p.secret = secret ∧ p.field = field
  · obtain ⟨rfl, rfl⟩ := hp
    rw [ne_eq, h.absent_iff, not_and_or] at hpresent
    rcases hpresent with hfield | hfirst
    · obtain ⟨text, htext⟩ := Option.ne_none_iff_exists'.mp hfield
      rw [htext, Option.some_or, Option.some_or]
    · obtain ⟨first, hfirst⟩ := Option.ne_none_iff_exists'.mp hfirst
      rw [hfirst, Option.some_or]
  · rw [if_neg hp, Option.or_none]

/-- A row whose field is not there adds its value. -/
theorem made (h : FilledBy ns s rows s')
    (habsent : s'.field? (.str ns) p.secret p.field = none) (value : String) :
    FilledBy ns s (rows ++ [(p, value)]) (s'.save (.str ns) p.secret p.field value) := by
  intro secret field
  rw [Valued.first?_append]
  by_cases hp : p.secret = secret ∧ p.field = field
  · obtain ⟨rfl, rfl⟩ := hp
    obtain ⟨hfield, hfirst⟩ := (h.absent_iff _ _).mp habsent
    rw [Store.field?_save_self, hfield, hfirst, if_pos ⟨rfl, rfl⟩]
    rfl
  · rw [Store.field?_save_of_ne value fun he => hp (by simpa using he), h secret field, if_neg hp,
      Option.or_none]

end FilledBy

def Unblocked (m : Manager) (ns : String) (s : Store) (table : List Policy) : Prop :=
  ∀ before p after, table = before ++ p :: after → ¬ p.Blocked m ns s before

/-- Two rows that are both the first blocked one are the same. -/
theorem Blocked.first_unique {before before' after after' : List Policy} {p q : Policy}
    (h : p.Blocked m ns s before) (hfirst : Unblocked m ns s before)
    (h' : q.Blocked m ns s before') (hfirst' : Unblocked m ns s before')
    (heq : before ++ p :: after = before' ++ q :: after') : before = before' ∧ p = q := by
  rcases List.append_eq_append_iff.mp heq with ⟨between, rfl, hrest⟩ | ⟨between, rfl, hrest⟩
  · cases between with
    | nil =>
      cases hrest
      exact ⟨(List.append_nil before).symm, rfl⟩
    | cons p' between =>
      cases hrest
      exact absurd h (hfirst' before p between rfl)
  · cases between with
    | nil =>
      cases hrest
      exact ⟨List.append_nil before', rfl⟩
    | cons q' between =>
      cases hrest
      exact absurd h' (hfirst before' q between rfl)

section Run

variable {made : Policy → Resolved → String} {resolved r : Resolved} {w w' : World}
  {table : List Policy} {outcome : Except Failure Resolved}

/-- A row that is blocked behind others has nothing in its field. -/
theorem Blocked.field?_eq_none (h : p.Blocked m ns s (rows.map Prod.fst))
    (hfilled : FilledBy ns s rows s') : s'.field? (.str ns) p.secret p.field = none :=
  (hfilled.absent_iff _ _).mpr ⟨h.2.1, Valued.first?_eq_none_iff.mpr h.2.2⟩

/-- A row behind others whose field is still empty is blocked if it is required. -/
theorem FilledBy.blocked (hfilled : FilledBy ns s rows s')
    (habsent : s'.field? (.str ns) p.secret p.field = none) (hrequired : p.isRequired m = true) :
    p.Blocked m ns s (rows.map Prod.fst) := by
  obtain ⟨hfield, hfirst⟩ := (hfilled.absent_iff _ _).mp habsent
  exact ⟨hrequired, hfield, Valued.first?_eq_none_iff.mp hfirst⟩

/-- No row behind others is blocked if the first one and those behind it are not. -/
private theorem not_blocked_cons (hfirst : ¬ p.Blocked m ns s (rows.map Prod.fst))
    (hrest : ∀ before q after, table = before ++ q :: after →
      ¬ q.Blocked m ns s ((rows ++ [(p, value)]).map Prod.fst ++ before)) :
    ∀ before q after, p :: table = before ++ q :: after →
      ¬ q.Blocked m ns s (rows.map Prod.fst ++ before) := by
  intro before q after htable hblocked
  cases before with
  | nil =>
    cases htable
    exact hfirst (by simpa using hblocked)
  | cons p' before =>
    cases htable
    exact hrest before q after rfl (by simpa using hblocked)

/-- A run that resolves its rows gives each its value and fills their fields, and none of them is
blocked. -/
private theorem TableRun.extend (h : TableRun m ns resolved w table (.ok r) w')
    (hdefault : ∀ p ∈ table, ∀ resolved, p.default resolved = pure (made p resolved))
    (hdecode : ∀ p ∈ table, ∀ text, s.field? (.str ns) p.secret p.field = some text →
      ∃ value, Secret.decode p.field p.secret (.str ns) text = .ok value)
    (hresolved : resolved = rows.byOption) (hfilled : FilledBy ns s rows w.store) :
    r = (rows.extend (s.contents ns) made table).byOption ∧
      FilledBy ns s (rows.extend (s.contents ns) made table) w'.store ∧
      ∀ before p after, table = before ++ p :: after →
        ¬ p.Blocked m ns s (rows.map Prod.fst ++ before) := by
  generalize hr : (Except.ok r : Except Failure Resolved) = outcome at h
  -- the rows so far grow by each row, with the value that the run gave it
  induction h generalizing rows with
  | done =>
    cases hr
    exact ⟨hresolved, hfilled, by simp⟩
  | @kept resolved w w' p table outcome value hvalue rest ih =>
    have hbehind := hfilled.value? (hdecode p List.mem_cons_self)
    rw [hvalue, Except.ok.injEq] at hbehind
    have hsame : rows.valueBehind (s.contents ns) made p = value := by
      rw [Valued.valueBehind, ← hbehind, Option.getD_some]
    have hpresent : w.store.field? (.str ns) p.secret p.field ≠ none := by
      rw [ne_eq, ← Store.value?_eq_none_iff, hvalue]
      simp
    obtain ⟨hvalues, hfilled', hopen⟩ := ih
      (fun q hq => hdefault q (List.mem_cons_of_mem p hq))
      (fun q hq => hdecode q (List.mem_cons_of_mem p hq))
      (by rw [Valued.byOption_append, hresolved]) (hfilled.kept hpresent value) hr
    rw [Valued.extend, hsame]
    exact ⟨hvalues, hfilled',
      not_blocked_cons (fun hblocked => hpresent (hblocked.field?_eq_none hfilled)) hopen⟩
  | @made resolved w w' p table outcome value picks hvalue hrequired hmade rest ih =>
    have hbehind := hfilled.value? (hdecode p List.mem_cons_self)
    rw [hvalue, Except.ok.injEq] at hbehind
    rw [hdefault p List.mem_cons_self, exec_pure, Prod.mk.injEq, Except.ok.injEq] at hmade
    have hsame : rows.valueBehind (s.contents ns) made p = value := by
      rw [Valued.valueBehind, ← hbehind, Option.getD_none, ← hresolved, hmade.1]
    have habsent := Store.value?_eq_none_iff.mp hvalue
    obtain ⟨hvalues, hfilled', hopen⟩ := ih
      (fun q hq => hdefault q (List.mem_cons_of_mem p hq))
      (fun q hq => hdecode q (List.mem_cons_of_mem p hq))
      (by rw [Valued.byOption_append, hresolved]) (hfilled.made habsent value) hr
    rw [Valued.extend, hsame]
    refine ⟨hvalues, hfilled', not_blocked_cons (fun hblocked => ?_) hopen⟩
    rw [hblocked.1] at hrequired
    cases hrequired
  | undecodable => cases hr
  | missing => cases hr

/-- Defaults that take nothing from outside can be made anywhere. -/
private theorem tableDraws_of_default (known : List String)
    (hdefault : ∀ p ∈ table, ∀ resolved, p.default resolved = pure (made p resolved)) :
    TableDraws known table := by
  induction table generalizing known with
  | nil => trivial
  | cons p table ih =>
    refine ⟨fun resolved w _ => ⟨made p resolved, w.picks, ?_⟩,
      ih _ fun q hq => hdefault q (List.mem_cons_of_mem p hq)⟩
    rw [hdefault p List.mem_cons_self, exec_pure]

/-- A run touches no other namespace. -/
private theorem TableRun.secret?_eq (h : TableRun m ns resolved w table outcome w') {k : Value}
    (hk : k ≠ .str ns) (name : String) :
    w'.store.secret? k name = w.store.secret? k name := by
  induction h with
  | done => rfl
  | @kept resolved w w' p table outcome value hvalue rest ih => exact ih
  | @made resolved w w' p table outcome value picks hvalue hrequired hmade rest ih =>
    exact ih.trans (Store.secret?_save_of_ne _ _ _ _ hk name)
  | undecodable => rfl
  | missing => rfl

/-- A run over rows with defaults of their own either resolves them all, none being blocked, or
stops at the first one that is. -/
private theorem TableRun.resolved_or_blocked (h : TableRun m ns [] w table outcome w')
    (hdefault : ∀ p ∈ table, ∀ resolved, p.default resolved = pure (made p resolved))
    (hdecode : ∀ p ∈ table, ∀ text, w.store.field? (.str ns) p.secret p.field = some text →
      ∃ value, Secret.decode p.field p.secret (.str ns) text = .ok value) :
    (outcome = .ok (Valued.extend (w.store.contents ns) made [] table).byOption ∧
      FilledBy ns w.store (Valued.extend (w.store.contents ns) made [] table) w'.store ∧
      Unblocked m ns w.store table) ∨
    ∃ before p after, table = before ++ p :: after ∧ p.Blocked m ns w.store before ∧
      Unblocked m ns w.store before ∧
      outcome = .error (.options ⟨.fieldMissing p.secret p.field, []⟩) ∧
      FilledBy ns w.store (Valued.extend (w.store.contents ns) made [] before) w'.store := by
  have hstart : FilledBy ns w.store [] w.store := fun secret field => by
    rw [Valued.first?, List.find?_nil, Option.map_none, Option.map_none, Option.or_none]
  have hnone : ([] : Resolved) = Valued.byOption [] := rfl
  cases outcome with
  | ok r =>
    obtain ⟨rfl, hfilled, hopen⟩ := h.extend hdefault hdecode hnone hstart
    exact .inl ⟨rfl, hfilled, hopen⟩
  | error f =>
    obtain ⟨before, p, after, r, w'', rfl, hrun, rfl, hfail⟩ := h.exists_of_error
    obtain ⟨-, hfilled, hopen⟩ := hrun.extend
      (fun q hq => hdefault q (List.mem_append_left _ hq))
      (fun q hq => hdecode q (List.mem_append_left _ hq)) hnone hstart
    have hread := hfilled.value? (hdecode p (by simp))
    rcases hfail with hundecodable | ⟨habsent, hrequired, rfl⟩
    · rw [hundecodable] at hread
      cases hread
    · have hblocked := hfilled.blocked (Store.value?_eq_none_iff.mp habsent) hrequired
      rw [Valued.map_fst_extend] at hblocked
      exact .inr ⟨before, p, after, rfl, hblocked, hopen, rfl, hfilled⟩

/-- A table of any rows, which may share secrets, fields and options, fails for want of a value if
and only if some row is blocked: it is required, nothing is stored in its field, and no row before
it is about the same field. The error names the first such row, and the store then has the defaults
of the rows before it. Without such a row the store has the defaults of all rows, and every option
gets the value of its last row, which is what the field of that row then holds. -/
theorem resolveTable_values (made : Policy → Resolved → String) (hns : '[' ∉ ns.toList)
    (hw : w.faults = [])
    (hnames : ∀ p ∈ table, '[' ∉ p.secret.toList ∧ '[' ∉ p.field.toList)
    (hdefault : ∀ p ∈ table, ∀ resolved, p.default resolved = pure (made p resolved))
    (hdecode : ∀ p ∈ table, ∀ text, w.store.field? (.str ns) p.secret p.field = some text →
      ∃ value, Secret.decode p.field p.secret (.str ns) text = .ok value)
    (h : exec (resolveTable m (.str ns) [] table) w = (outcome, w')) :
    ((∃ e secret field, outcome = .error (.options e) ∧ e.kind = .secretNotFound secret field) ↔
      ∃ before p after, table = before ++ p :: after ∧ p.Blocked m ns w.store before) ∧
    (∀ before p after, table = before ++ p :: after → p.Blocked m ns w.store before →
      Unblocked m ns w.store before →
        outcome = .error (.options ⟨.fieldMissing p.secret p.field, []⟩) ∧
        FilledBy ns w.store (Valued.extend (w.store.contents ns) made [] before) w'.store) ∧
    (Unblocked m ns w.store table →
      FilledBy ns w.store (Valued.extend (w.store.contents ns) made [] table) w'.store ∧
      ∃ r, outcome = .ok r ∧
        (∀ option, Assoc.get? option r =
          (Valued.extend (w.store.contents ns) made [] table).last? option) ∧
        ∀ option p, table.reverse.find? (fun q => q.option = option) = some p →
          ∃ value, Assoc.get? option r = some value ∧
            w'.store.value? (.str ns) p.secret p.field = .ok (some value)) ∧
    ∀ k ≠ .str ns, ∀ name, w'.store.secret? k name = w.store.secret? k name := by
  have hprint : ∀ p ∈ table, p.Printable ns := by
    intro p hp
    obtain ⟨hsecret, hfield⟩ := hnames p hp
    exact ⟨Notice.lines_reading_of_not_mem hns hsecret, Notice.lines_stored hsecret hfield⟩
  have hrun : TableRun m ns [] w table outcome w' := by
    have hrun : TableRun m ns [] w table (exec (resolveTable m (.str ns) [] table) w).1
        (exec (resolveTable m (.str ns) [] table) w).2 :=
      tableRun_resolveTable hw hprint (tableDraws_of_default [] hdefault) (by simp)
    rwa [h] at hrun
  refine ⟨?_, ?_, ?_, fun k hk name => hrun.secret?_eq hk name⟩
  · rcases hrun.resolved_or_blocked hdefault hdecode with
      ⟨rfl, -, hopen⟩ | ⟨before, p, after, htable, hblocked, -, rfl, -⟩
    · simp only [reduceCtorEq, false_and, exists_false, false_iff]
      rintro ⟨before, p, after, htable, hblocked⟩
      exact hopen before p after htable hblocked
    · exact ⟨fun _ => ⟨before, p, after, htable, hblocked⟩, fun _ => ⟨_, _, _, rfl, rfl⟩⟩
  · intro before p after htable hblocked hopen
    rcases hrun.resolved_or_blocked hdefault hdecode with
      ⟨-, -, hnone⟩ | ⟨before', q, after', htable', hblocked', hopen', rfl, hfilled⟩
    · exact absurd hblocked (hnone before p after htable)
    · obtain ⟨rfl, rfl⟩ := hblocked.first_unique hopen hblocked' hopen' (htable.symm.trans htable')
      exact ⟨rfl, hfilled⟩
  · intro hopen
    rcases hrun.resolved_or_blocked hdefault hdecode with
      ⟨rfl, hfilled, -⟩ | ⟨before, p, after, htable, hblocked, -⟩
    · refine ⟨hfilled, _, rfl, fun option => Valued.get?_byOption option _, fun option p hp => ?_⟩
      obtain ⟨value, hvalue, hmem⟩ := Valued.exists_last?_extend hp
      have hread := hfilled.value? (hdecode p (List.mem_reverse.mp (List.mem_of_find?_eq_some hp)))
      have hsettled := Valued.Settled.extend (fun e he => absurd he List.not_mem_nil) table _ hmem
      exact ⟨value, (Valued.get?_byOption option _).trans hvalue, by rw [hread, hsettled]⟩
    · exact absurd hblocked (hopen before p after htable)

/-- A required row of a field that a row before it has filled gets that value, and the error is
about the first row that no value is left for. -/
theorem resolveTable_values_shared_field :
    ∃ w', exec (resolveTable { name := .str "own" } (.str "test") [] [
        ⟨"a", "s", "F", fun _ => pure "x", fun _ => false⟩,
        ⟨"b", "s", "F", fun _ => pure "", fun _ => true⟩,
        ⟨"a", "t", "G", fun r => pure ((Assoc.get? "b" r).getD "" ++ "y"), fun _ => false⟩,
        ⟨"c", "t", "H", fun _ => pure "", fun _ => true⟩]) { picks := ⟨fun n => n, 0⟩ } =
        (.error (.options ⟨.fieldMissing "t" "H", []⟩), w') ∧
      ∀ secret field, w'.store.field? (.str "test") secret field =
        if (secret, field) = ("s", "F") then some (Secret.encode "x")
        else if (secret, field) = ("t", "G") then some (Secret.encode "xy") else none := by
  cases h : exec (resolveTable { name := .str "own" } (.str "test") [] [
      ⟨"a", "s", "F", fun _ => pure "x", fun _ => false⟩,
      ⟨"b", "s", "F", fun _ => pure "", fun _ => true⟩,
      ⟨"a", "t", "G", fun r => pure ((Assoc.get? "b" r).getD "" ++ "y"), fun _ => false⟩,
      ⟨"c", "t", "H", fun _ => pure "", fun _ => true⟩]) { picks := ⟨fun n => n, 0⟩ } with
  | mk outcome w' =>
    obtain ⟨-, hblocked, -⟩ := resolveTable_values
      (fun p r =>
        if p.field = "F" ∧ p.option = "a" then "x"
        else if p.field = "G" then (Assoc.get? "b" r).getD "" ++ "y" else "")
      (by decide) rfl (by decide) (by simp) (by simp [Store.field?, Store.secret?,
        Store.secretsIn, Assoc.get?]) h
    have hopen : Unblocked { name := .str "own" } "test" [] [
        ⟨"a", "s", "F", fun _ => pure "x", fun _ => false⟩,
        ⟨"b", "s", "F", fun _ => pure "", fun _ => true⟩,
        ⟨"a", "t", "G", fun r => pure ((Assoc.get? "b" r).getD "" ++ "y"), fun _ => false⟩] := by
      rintro (_ | ⟨_, _ | ⟨_, _ | ⟨_, before⟩⟩⟩) p after htable ⟨hrequired, -, hfree⟩
      · cases htable
        cases hrequired
      · cases htable
        exact hfree _ List.mem_cons_self ⟨rfl, rfl⟩
      · cases htable
        cases hrequired
      · simp at htable
    obtain ⟨rfl, hfilled⟩ := hblocked _ _ [] rfl ⟨rfl, rfl, by decide⟩ hopen
    refine ⟨w', rfl, fun secret field => ?_⟩
    rw [hfilled secret field]
    change (none : Option String).or (Option.map Secret.encode (Valued.first? secret field
      [(⟨"a", "s", "F", _, _⟩, "x"), (⟨"b", "s", "F", _, _⟩, "x"),
        (⟨"a", "t", "G", _, _⟩, "xy")])) = _
    rw [Option.none_or, Valued.first?]
    by_cases hs : ("s", "F") = (secret, field)
    · cases hs
      rfl
    · by_cases ht : ("t", "G") = (secret, field)
      · cases ht
        rfl
      · rw [if_neg (Ne.symm hs), if_neg (Ne.symm ht)]
        rw [Prod.mk.injEq] at hs ht
        simp [hs, ht]

end Run

end DeployOptions.Policy
