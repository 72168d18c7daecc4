import DeployOptions.Alert.Registry
import Mathlib.Data.List.Nodup

/-! The registry as a machine that takes one step after the other. What it holds is determined by
the registrations that have succeeded, and nothing changes it once it is frozen. -/
namespace DeployOptions.Registry

inductive Step
  | register (constructor : Except Failure Factory)
  | freeze
  | get (type : String)
  | types
  | iterate
  | size

inductive Answer
  | registered (f : Factory)
  | frozen
  | found (f : Factory)
  | types (types : List String)
  | factories (factories : List Factory)
  | size (n : Nat)

def Step.run (r : Registry) : Step → Except Failure Answer × Registry
  | .register constructor =>
    match r.register constructor with
    | .ok (f, r) => (.ok (.registered f), r)
    | .error e => (.error e, r)
  | .freeze => (.ok .frozen, r.freeze)
  | .get type => ((r.get type).map .found, r)
  | .types => (.ok (.types r.types), r)
  | .iterate => (.ok (.factories r.factories), r)
  | .size => (.ok (.size r.size), r)

def after (r : Registry) (steps : List Step) : Registry :=
  steps.foldl (fun r step => (step.run r).2) r

def outcomes (r : Registry) : List Step → List (Except Failure Answer)
  | [] => []
  | step :: rest => (step.run r).1 :: outcomes (step.run r).2 rest

def added? : Except Failure Answer → Option Factory
  | .ok (.registered f) => some f
  | _ => none

/-- The factories of the registrations that succeed among some steps, in their order. -/
def accepted (r : Registry) (steps : List Step) : List Factory :=
  (outcomes r steps).filterMap added?

variable {r : Registry} {step : Step} {steps : List Step} {f : Factory}

/-- A registration that nothing speaks against. -/
private theorem run_register_ok (hfrozen : r.frozen = false) (hnew : f.type ∉ r.types) :
    (Step.register (.ok f)).run r =
      (.ok (.registered f), { r with factories := r.factories ++ [f] }) := by
  simp [Step.run, register, hfrozen, hnew]

private theorem run_register_twice (hfrozen : r.frozen = false) (hold : f.type ∈ r.types) :
    (Step.register (.ok f)).run r = (.error (.alreadyRegistered f.type), r) := by
  simp [Step.run, register, hfrozen, hold]

private theorem run_register_error (hfrozen : r.frozen = false) (e : Failure) :
    (Step.register (.error e)).run r = (.error e, r) := by
  simp [Step.run, register, hfrozen]

private theorem run_register_frozen (hfrozen : r.frozen = true)
    (constructor : Except Failure Factory) :
    (Step.register constructor).run r = (.error .registryFrozen, r) := by
  simp [Step.run, register, hfrozen]

/-- A step adds a factory of a new type to a registry that is not frozen, or freezes the registry,
or leaves it as it is. -/
theorem Step.run_cases (step : Step) (r : Registry) :
    (∃ f, step = .register (.ok f) ∧ r.frozen = false ∧ f.type ∉ r.types ∧
      step.run r = (.ok (.registered f), { r with factories := r.factories ++ [f] })) ∨
    (step = .freeze ∧ step.run r = (.ok .frozen, r.freeze)) ∨
    (step ≠ .freeze ∧ (step.run r).2 = r ∧ added? (step.run r).1 = none) := by
  cases step with
  | register constructor =>
    cases hfrozen : r.frozen with
    | true =>
      rw [run_register_frozen hfrozen]
      exact .inr (.inr ⟨nofun, rfl, rfl⟩)
    | false =>
      cases constructor with
      | error e =>
        rw [run_register_error hfrozen]
        exact .inr (.inr ⟨nofun, rfl, rfl⟩)
      | ok f =>
        by_cases hold : f.type ∈ r.types
        · rw [run_register_twice hfrozen hold]
          exact .inr (.inr ⟨nofun, rfl, rfl⟩)
        · exact .inl ⟨f, rfl, rfl, hold, hfrozen ▸ run_register_ok hfrozen hold⟩
  | freeze => exact .inr (.inl ⟨rfl, rfl⟩)
  | get type =>
    refine .inr (.inr ⟨nofun, rfl, ?_⟩)
    rw [Step.run]
    cases r.get type <;> rfl
  | types => exact .inr (.inr ⟨nofun, rfl, rfl⟩)
  | iterate => exact .inr (.inr ⟨nofun, rfl, rfl⟩)
  | size => exact .inr (.inr ⟨nofun, rfl, rfl⟩)

/-- A step that fails changes nothing. -/
theorem Step.run_error {e : Failure} (h : (step.run r).1 = .error e) : (step.run r).2 = r := by
  obtain ⟨f, -, -, -, hrun⟩ | ⟨-, hrun⟩ | ⟨-, hsame, -⟩ := step.run_cases r
  · rw [hrun] at h
    cases h
  · rw [hrun] at h
    cases h
  · exact hsame

/-- No step changes a frozen registry. -/
theorem Step.run_frozen (hfrozen : r.frozen = true) : (step.run r).2 = r := by
  obtain ⟨f, -, hopen, -⟩ | ⟨-, hrun⟩ | ⟨-, hsame, -⟩ := step.run_cases r
  · rw [hfrozen] at hopen
    cases hopen
  · rw [hrun, Registry.freeze, ← hfrozen]
  · exact hsame

/-- A step adds what it says that it has added. -/
private theorem factories_run (step : Step) (r : Registry) :
    (step.run r).2.factories = r.factories ++ (added? (step.run r).1).toList := by
  obtain ⟨f, -, -, -, hrun⟩ | ⟨-, hrun⟩ | ⟨-, hsame, hnone⟩ := step.run_cases r
  · rw [hrun]
    rfl
  · rw [hrun]
    exact (List.append_nil _).symm
  · rw [hsame, hnone]
    exact (List.append_nil _).symm

/-- No step adds a type a second time. -/
private theorem nodup_run (step : Step) (h : r.types.Nodup) : (step.run r).2.types.Nodup := by
  obtain ⟨f, -, -, hnew, hrun⟩ | ⟨-, hrun⟩ | ⟨-, hsame, -⟩ := step.run_cases r
  · rw [hrun, types, List.map_append]
    refine List.nodup_append.mpr ⟨h, List.nodup_singleton _, fun type htype other hother => ?_⟩
    rw [List.mem_singleton.mp hother]
    rintro rfl
    exact hnew htype
  · rw [hrun]
    exact h
  · rw [hsame]
    exact h

private theorem frozen_run (step : Step) (r : Registry) :
    (step.run r).2.frozen = true ↔ r.frozen = true ∨ step = .freeze := by
  obtain ⟨f, rfl, hopen, -, hrun⟩ | ⟨rfl, hrun⟩ | ⟨hne, hsame, -⟩ := step.run_cases r
  · rw [hrun]
    simp [hopen]
  · rw [hrun]
    simp [freeze]
  · rw [hsame]
    simp [hne]

theorem after_append (r : Registry) (steps more : List Step) :
    after r (steps ++ more) = after (after r steps) more := List.foldl_append

/-- A registry holds what it held before some steps, and then what these have added. -/
theorem factories_after (r : Registry) (steps : List Step) :
    (after r steps).factories = r.factories ++ accepted r steps := by
  induction steps generalizing r with
  | nil => exact (List.append_nil _).symm
  | cons step steps ih =>
    have haccepted : accepted r (step :: steps) =
        (added? (step.run r).1).toList ++ accepted (step.run r).2 steps := by
      rw [accepted, outcomes, List.filterMap_cons]
      cases added? (step.run r).1 <;> rfl
    calc (after r (step :: steps)).factories
        = (step.run r).2.factories ++ accepted (step.run r).2 steps := ih _
      _ = r.factories ++ accepted r (step :: steps) := by
        rw [factories_run, haccepted, List.append_assoc]

theorem nodup_after (h : r.types.Nodup) (steps : List Step) : (after r steps).types.Nodup := by
  induction steps generalizing r with
  | nil => exact h
  | cons step steps ih => exact ih (nodup_run step h)

theorem frozen_after (r : Registry) (steps : List Step) :
    (after r steps).frozen = true ↔ r.frozen = true ∨ .freeze ∈ steps := by
  induction steps generalizing r with
  | nil => simp [after]
  | cons step steps ih =>
    refine (ih (step.run r).2).trans ?_
    rw [frozen_run, List.mem_cons, or_assoc, eq_comm (a := step)]

theorem after_frozen (hfrozen : r.frozen = true) (steps : List Step) : after r steps = r := by
  induction steps with
  | nil => rfl
  | cons step steps ih =>
    rw [after, List.foldl_cons, Step.run_frozen hfrozen]
    exact ih

/-- A factory of a registry without duplicates is found under its type. -/
theorem find?_type (h : r.types.Nodup) (hf : f ∈ r.factories) : r.find? f.type = some f := by
  have hfound : (r.find? f.type).isSome := List.find?_isSome.mpr ⟨f, hf, decide_eq_true rfl⟩
  obtain ⟨g, hg⟩ : ∃ g, r.find? f.type = some g := Option.isSome_iff_exists.mp hfound
  have htype : g.type = f.type := by simpa using List.find?_some hg
  rw [hg, List.inj_on_of_nodup_map h (List.mem_of_find?_eq_some hg) hf htype]

/-- A type that is not listed is not found. -/
theorem find?_of_not_mem {type : String} (h : type ∉ r.types) : r.find? type = none := by
  refine List.find?_eq_none.mpr fun f hf htype => h ?_
  rw [← of_decide_eq_true htype]
  exact List.mem_map_of_mem hf

/-- After any steps from an empty registry, it holds the factories of the registrations that have
succeeded, in their order and each of a type of its own, and a look-up finds these and nothing else.
A frozen registry refuses every registration, whatever its constructor would do; otherwise the
constructor fails by itself, or its factory is added unless the type is there. A step that fails
changes nothing, and from the first freezing on no step does. -/
theorem registry_history (steps : List Step) :
    ((accepted {} steps).map Factory.type).Nodup ∧
    (Step.types.run (after {} steps)).1 = .ok (.types ((accepted {} steps).map Factory.type)) ∧
    (Step.iterate.run (after {} steps)).1 = .ok (.factories (accepted {} steps)) ∧
    (Step.size.run (after {} steps)).1 = .ok (.size (accepted {} steps).length) ∧
    ((after {} steps).frozen = true ↔ .freeze ∈ steps) ∧
    (∀ f ∈ accepted {} steps,
      ((Step.get f.type).run (after {} steps)).1 = .ok (.found f)) ∧
    (∀ type ∉ (accepted {} steps).map Factory.type,
      ((Step.get type).run (after {} steps)).1 =
        .error (.unknownFactory type ((accepted {} steps).map Factory.type))) ∧
    (.freeze ∈ steps → ∀ constructor,
      ((Step.register constructor).run (after {} steps)).1 = .error .registryFrozen) ∧
    (.freeze ∉ steps →
      (∀ e, ((Step.register (.error e)).run (after {} steps)).1 = .error e) ∧
      (∀ f, f.type ∈ (accepted {} steps).map Factory.type →
        ((Step.register (.ok f)).run (after {} steps)).1 = .error (.alreadyRegistered f.type)) ∧
      ∀ f, f.type ∉ (accepted {} steps).map Factory.type →
        (Step.register (.ok f)).run (after {} steps) =
          (.ok (.registered f), ⟨accepted {} steps ++ [f], false⟩)) ∧
    (∀ step e, (Step.run (after {} steps) step).1 = .error e →
      (Step.run (after {} steps) step).2 = after {} steps) ∧
    (.freeze ∈ steps → ∀ more, after {} (steps ++ more) = after {} steps) := by
  have hnodup : (after {} steps).types.Nodup := nodup_after (r := {}) List.nodup_nil steps
  have hfactories : (after {} steps).factories = accepted {} steps := factories_after {} steps
  have htypes : (after {} steps).types = (accepted {} steps).map Factory.type := by
    rw [types, hfactories]
  have hfrozen : (after {} steps).frozen = true ↔ .freeze ∈ steps := by
    rw [frozen_after]
    simp
  have hopen (h : .freeze ∉ steps) : (after {} steps).frozen = false := by
    rw [← Bool.not_eq_true, hfrozen]
    exact h
  rw [← htypes, ← hfactories]
  refine ⟨hnodup, rfl, rfl, rfl, hfrozen, fun f hf => ?_, fun type htype => ?_,
    fun h constructor => ?_, fun h => ⟨fun e => ?_, fun f hold => ?_, fun f hnew => ?_⟩,
    fun step e => Step.run_error, fun h more => ?_⟩
  · rw [Step.run, get, find?_type hnodup hf]
    rfl
  · rw [Step.run, get, find?_of_not_mem htype]
    rfl
  · rw [run_register_frozen (hfrozen.mpr h)]
  · rw [run_register_error (hopen h)]
  · rw [run_register_twice (hopen h) hold]
  · rw [run_register_ok (hopen h) hnew, hopen h]
  · rw [after_append, after_frozen (hfrozen.mpr h)]

/-- A second factory of a type is refused, and so is a constructor that fails; once frozen, it is
not even called. -/
theorem registry_history_refusals :
    let steps : List Step := [.register (.ok ⟨"zync", .error .aborted⟩),
      .register (.error (.constructorFailed "zync")), .register (.ok ⟨"zync", .error .unusablePath⟩),
      .freeze]
    .freeze ∈ steps ∧
    (Step.types.run (after {} steps)).1 = .ok (.types ["zync"]) ∧
    ((Step.get "zync").run (after {} steps)).1 = .ok (.found ⟨"zync", .error .aborted⟩) ∧
    ((Step.register (.error (.constructorFailed "zync"))).run (after {} steps)).1 =
      .error .registryFrozen := by
  intro steps
  have hfreeze : .freeze ∈ steps := by simp [steps]
  have haccepted : accepted {} steps = [⟨"zync", .error .aborted⟩] := rfl
  obtain ⟨-, htypes, -, -, -, hget, -, hrefused, -⟩ := registry_history steps
  rw [haccepted] at htypes hget
  exact ⟨hfreeze, htypes, hget _ List.mem_cons_self, hrefused hfreeze _⟩

/-- The built-in registry is what registering the built-in factories and freezing leads to. -/
example : builtIn = after {} (Factory.builtIn.map (fun f => .register (.ok f)) ++ [.freeze]) := rfl

end DeployOptions.Registry
