import CallChain.Proofs.Run.Forward

/-! Leaving a chain early: what a plan that passes the structural check gives when its guarded call
has given an invalid handle. -/

namespace CallChain

namespace Plan

/-- An output passes when it is the handle of a call for an item. -/
theorem checkOutput_eq_ok_iff {plan : Plan} :
    plan.checkOutput = .ok () ↔ ∃ source step, plan.output = .step source .handle ∧
      plan.step? source = some step ∧ step.call = .createOrShow := by
  unfold checkOutput
  split
  · next source shape =>
    cases found : plan.step? source with
    | none => simp [shape, found]
    | some step => by_cases asks : step.call = .createOrShow <;> simp [shape, found, asks]
  · next other =>
    simp only [reduceCtorEq, false_iff]
    rintro ⟨source, step, shape, _⟩
    exact other source shape

end Plan

/-- A handle that is not valid is the invalid handle. -/
theorem Handle.isValid_eq_false_iff {handle : Handle} :
    handle.isValid = false ↔ handle = .invalid := by
  obtain ⟨raw⟩ := handle
  cases raw <;> simp [isValid, invalid]

/-- The output that is bound to a handle is the invalid one when the handle given is not valid. -/
theorem Machine.output_eq_invalid_iff {α : Type} {machine : Machine α} {source : StepId} :
    machine.output (.step source .handle) = .ok .invalid ↔
      machine.handleValid? source = some false := by
  rw [handleValid?_eq_some_iff]
  simp only [output, Handle.isValid_eq_false_iff]
  split
  · next handle given => simp [given]
  · next other =>
    simp only [reduceCtorEq, false_iff]
    rintro ⟨handle, given, _⟩
    exact other handle given

namespace RunSetting

variable {α : Type} [Bindable α] {setting : RunSetting} {manager : Manager α} {guard : Step}

/-- Once the guarded call has given an invalid handle, the loop is over, and no step after that
call has given anything. -/
theorem over_of_invalid (guarded : setting.plan.IsGuarded guard)
    (invalid : (setting.loop manager).1.handleValid? guard.id = some false) :
    (setting.loop manager).2 = .ok () ∧ ∃ done rest : List Step,
      setting.plan.steps = done ++ guard :: rest ∧
      ∀ step ∈ rest, (setting.loop manager).1.handleValid? step.id = none := by
  obtain ⟨visited, ends, _⟩ := Machine.exists_ends_of_loop guarded manager
  generalize setting.loop manager = outcome at ends invalid
  cases ends with
  | completed _ valid => simp [valid] at invalid
  | @left machine done rest split through _ =>
    refine ⟨rfl, done, rest, split, fun step member => ?_⟩
    -- The loop has never come to a later step, so nothing was produced under its id.
    obtain ⟨between, after, placed⟩ := List.append_of_mem member
    have later : setting.plan.steps = (done ++ [guard] ++ between) ++ step :: after := by
      simp [split, placed]
    have absent : ∀ other ∈ done ++ [guard], other.id ≠ step.id := fun other early =>
      guarded.numbered.ne_before later other (List.mem_append_left between early)
    simp [Machine.handleValid?, through.silent step.id absent]
  | @failed machine done rest step _ split through valid _ =>
    -- Before the step that has failed, the guarded call gave a valid handle or nothing yet.
    by_cases early : guard ∈ done
    · simp [valid early] at invalid
    · have absent : ∀ other ∈ done, other.id ≠ guard.id := fun other member same =>
        early (guarded.eq_of_id (by simp [split, member]) same ▸ member)
      simp [Machine.handleValid?, through.silent guard.id absent] at invalid

/-- A run whose loop has ended well gives the invalid handle just if its output is one. -/
theorem gives_invalid_iff (ended : (setting.loop manager).2 = .ok ()) {source : StepId}
    (bound : setting.plan.output = .step source .handle) :
    (∃ report, (setting.run manager).result = .ok report ∧ report.output = .invalid) ↔
      (setting.loop manager).1.handleValid? source = some false := by
  simp only [run_eq_ok_iff, ended, bound, true_and, ← Machine.output_eq_invalid_iff]
  constructor
  · rintro ⟨_, ⟨handle, given, rfl⟩, rfl⟩
    exact given
  · intro given
    exact ⟨_, ⟨_, given, rfl⟩, rfl⟩

/-- After an invalid handle of the guarded call, a plan that passes the structural check gives the
invalid handle just if its output is bound to the guarded call, or to an earlier call for an item
that has given an invalid handle as well. The check is content with any call for an item. -/
theorem invalid_output_iff (verified : setting.plan.verify = .ok ())
    (member : guard ∈ setting.plan.steps) (branches : setting.plan.Branches guard)
    (invalid : (setting.loop manager).1.handleValid? guard.id = some false) :
    ∃ source, setting.plan.output = .step source .handle ∧
      ((∃ report, (setting.run manager).result = .ok report ∧ report.output = .invalid) ↔
        source = guard.id ∨ source.raw < guard.id.raw ∧
          (setting.loop manager).1.handleValid? source = some false) := by
  obtain ⟨own, guarded⟩ := Plan.exists_guard_of_verify verified
  obtain rfl := (guarded.branches_iff member).mp branches
  obtain ⟨_, _, _, _, output⟩ := Plan.verify_eq_ok_iff.mp verified
  obtain ⟨source, step, bound, found, _⟩ := Plan.checkOutput_eq_ok_iff.mp output
  obtain ⟨ended, done, rest, split, silent⟩ := over_of_invalid guarded invalid
  refine ⟨source, bound, (gives_invalid_iff ended bound).trans ⟨fun held => ?_, ?_⟩⟩
  · -- The call that the output is bound to stands before, at or after the guarded one.
    obtain ⟨rfl, before, after, placed, _⟩ := guarded.numbered.split_of_step? found
    have known : step ∈ done ++ guard :: rest := by rw [← split, placed]; simp
    rcases List.mem_append.mp known with early | late
    · obtain ⟨first, between, rfl⟩ := List.append_of_mem early
      have ahead : setting.plan.steps = first ++ step :: (between ++ guard :: rest) := by
        simp [split]
      exact .inr ⟨guarded.numbered.lt_after ahead guard (by simp), held⟩
    · rcases List.mem_cons.mp late with rfl | later
      · exact .inl rfl
      · simp [silent step later] at held
  · rintro (rfl | ⟨_, held⟩)
    · exact invalid
    · exact held

/-- Bound to the handle of its guarded call, the plan for two items gives the invalid handle when
the manager can make no item. -/
theorem invalid_output_iff_bound :
    let setting : RunSetting :=
      ⟨{ Plan.twoItems with output := .step ⟨1⟩ .handle }, .empty, .invalid, false⟩
    let guard := Plan.askFor ⟨1⟩ "first"
    setting.plan.verify = .ok () ∧ guard ∈ setting.plan.steps ∧ setting.plan.Branches guard ∧
      (setting.loop (.empty : Manager Bag)).1.handleValid? guard.id = some false ∧
      ∃ report, (setting.run (.empty : Manager Bag)).result = .ok report ∧
        report.output = .invalid := by
  intro setting guard
  have verified : setting.plan.verify = .ok () := by decide +kernel
  have member : guard ∈ setting.plan.steps := by decide +kernel
  have branches : setting.plan.Branches guard := by
    exact ⟨⟨⟨1⟩, .step ⟨2⟩, .ifValid⟩, by decide +kernel, by decide⟩
  have invalid : (setting.loop (.empty : Manager Bag)).1.handleValid? guard.id = some false := by
    decide +kernel
  obtain ⟨source, bound, gives⟩ := invalid_output_iff verified member branches invalid
  -- The output names its step, so there is only one it can be bound to.
  cases bound
  exact ⟨verified, member, branches, invalid, gives.mpr (.inl rfl)⟩

/-- An invalid handle of the guarded call does not always become the output of a plan that passes
the structural check: the plan for two items ends without any output. -/
theorem not_forall_invalid_output :
    ¬ ∀ (setting : RunSetting) (manager : Manager Bag) (guard : Step),
      setting.plan.verify = .ok () → guard ∈ setting.plan.steps → setting.plan.Branches guard →
      (setting.loop manager).1.handleValid? guard.id = some false →
      ∃ report, (setting.run manager).result = .ok report ∧ report.output = .invalid := by
  intro always
  have branches : Plan.twoItems.Branches (Plan.askFor ⟨1⟩ "first") :=
    ⟨⟨⟨1⟩, .step ⟨2⟩, .ifValid⟩, by decide +kernel, by decide⟩
  obtain ⟨report, given, _⟩ := always ⟨Plan.twoItems, .empty, .invalid, false⟩ .empty
    (Plan.askFor ⟨1⟩ "first") (by decide +kernel) (by decide +kernel) branches (by decide +kernel)
  -- The second item was never asked for, and so there is no handle to give.
  have missing : (RunSetting.run ⟨Plan.twoItems, .empty, .invalid, false⟩
      (.empty : Manager Bag)).result = .error (.malformed (.outputMissing ⟨3⟩ .handle)) := by
    decide +kernel
  rw [missing] at given
  cases given

end RunSetting

end CallChain
