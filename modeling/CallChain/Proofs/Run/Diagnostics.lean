import CallChain.Proofs.Binding.Bag
import CallChain.Proofs.Run.Forward

/-! Diagnostics: they change nothing about a run but what is reported as missed, and on objects that
are bags the report is exact. -/

namespace CallChain

/-- A property step as a run comes to carry it out: what the manager is like by then, and the handle
of the object whose property is to be set. -/
structure Attempt (α : Type) where
  manager : Manager α
  step : StepId
  property : String
  type : ValueType
  target : Handle

namespace Attempt

variable (attempt : Attempt Bag)

/-- Why the attempt has no effect, if it has none: there is no object, or its type declares no
property of the name, or the first one of the name is of another type. -/
def cause? : Option MissCause :=
  match attempt.manager.object? attempt.target with
  | none => some .objectUnavailable
  | some object =>
    match object.shape.declared? attempt.property with
    | none => some (.binding .missingProperty)
    | some declared =>
      if declared = attempt.type then none
      else some (.binding (.typeMismatch attempt.type declared))

/-- The type of the object, if there is one. -/
def objectType? : Option String :=
  (attempt.manager.object? attempt.target).map Bag.typeName

/-- What the trace tells of the attempt. -/
def entry : TraceEntry :=
  .bound attempt.step attempt.property attempt.cause?.isNone

/-- What diagnostics report of the attempt, if it has no effect. -/
def miss? : Option Miss :=
  attempt.cause?.map fun reason =>
    ⟨attempt.step, attempt.property, attempt.objectType?, reason⟩

end Attempt

/-- What the trace tells of a property step that had no effect. -/
def Miss.entry (miss : Miss) : TraceEntry :=
  .bound miss.step miss.property false

/-- Whether an entry tells of a property that was not set. -/
def TraceEntry.isMiss : TraceEntry → Bool
  | bound _ _ success => !success
  | _ => false

namespace Machine

variable {α : Type} [Bindable α]

/-- The property step that a machine is about to carry out, if the step is one. -/
def attempt? (machine : Machine α) (setting : RunSetting) (step : Step) : Option (Attempt α) :=
  match step.call with
  | .locate | .createOrShow => none
  | .setProperty property type =>
    match machine.typed setting step .target .object with
    | .error _ => none
    | .ok target => some ⟨machine.manager, step.id, property, type, target⟩

/-- The property steps that are carried out from a step on, in order and in at most so many
turns. -/
def attempts (setting : RunSetting) : (turns : Nat) → Machine α → StepId → List (Attempt α)
  | 0, _, _ => []
  | turns + 1, machine, cursor =>
    match setting.plan.step? cursor with
    | none => []
    | some step =>
      match machine.execute setting step with
      | .error _ => []
      | .ok executed =>
        (machine.attempt? setting step).toList ++
          match executed.next setting step.id with
          | .error _ | .ok (_, .exit) => []
          | .ok (moved, .step goal) => attempts setting turns moved goal

end Machine

namespace RunSetting

/-- The same run with diagnostics on or off. -/
def observed (setting : RunSetting) (diagnostics : Bool) : RunSetting :=
  { setting with diagnostics }

/-- The property steps that a run carries out, in order. -/
def attempts {α : Type} [Bindable α] (setting : RunSetting) (manager : Manager α) :
    List (Attempt α) :=
  match setting.plan.entry? with
  | none => []
  | some entry => Machine.attempts setting setting.plan.steps.length (.start manager) entry

end RunSetting

namespace Machine

variable {setting : RunSetting} {step : Step}

section Telling

variable {machine executed moved : Machine Bag}

/-- Between two states of a run some attempts were made, and the trace and the report tell just of
these. -/
structure Tells (setting : RunSetting) (before after : Machine Bag)
    (attempts : List (Attempt Bag)) : Prop where
  entries : after.trace.filter TraceEntry.isBound =
    before.trace.filter TraceEntry.isBound ++ attempts.map Attempt.entry
  misses : after.unresolved =
    before.unresolved ++ if setting.diagnostics then attempts.filterMap Attempt.miss? else []

/-- Where nothing happens, there is nothing to tell. -/
theorem Tells.refl (setting : RunSetting) (machine : Machine Bag) :
    Tells setting machine machine [] := by
  constructor <;> simp

/-- What is told of two stretches of a run is told one after the other. -/
theorem Tells.trans {first second third : Machine Bag} {early late : List (Attempt Bag)}
    (one : Tells setting first second early) (two : Tells setting second third late) :
    Tells setting first third (early ++ late) := by
  refine ⟨?_, ?_⟩
  · rw [two.entries, one.entries, List.map_append, List.append_assoc]
  · rw [two.misses, one.misses]
    cases setting.diagnostics <;> simp

/-- A value of the type it is offered for is bound unless the attempt has a cause to fail. -/
theorem result_bindProperty (attempt : Attempt Bag) {value : Value}
    (typed : value.type = attempt.type) :
    (bindProperty attempt.manager attempt.target attempt.property value attempt.type).2 =
      (attempt.objectType?,
        match attempt.cause? with
        | none => .ok ()
        | some reason => .error reason) := by
  rw [snd_bindProperty]
  unfold Attempt.objectType? Attempt.cause?
  cases attempt.manager.object? attempt.target with
  | none => rfl
  | some object =>
    simp only [Option.map_some, TypeShape.taken_eq typed]
    cases object.shape.declared? attempt.property with
    | none => rfl
    | some declared =>
      by_cases same : declared = attempt.type <;> simp [same, Except.map, Except.mapError] <;> rfl

/-- Carrying out a step tells of the attempt that the step is, if it is one. -/
theorem tells_execute (done : machine.execute setting step = .ok executed) :
    Tells setting machine executed (machine.attempt? setting step).toList := by
  unfold execute at done
  unfold attempt?
  cases call : step.call with
  | locate =>
    simp only [call, bind_eq_ok_iff, pure_eq_ok_iff] at done
    obtain ⟨context, _, rfl⟩ := done
    constructor <;> simp [produce, record, TraceEntry.isBound]
  | createOrShow =>
    simp only [call, bind_eq_ok_iff, pure_eq_ok_iff] at done
    obtain ⟨_, _, _, _, _, _, _, _, _, _, rfl⟩ := done
    constructor <;> simp [produce, record, TraceEntry.isBound]
  | setProperty property type =>
    simp only [call, bind_eq_ok_iff, pure_eq_ok_iff] at done
    obtain ⟨target, aimed, data, _, rfl⟩ := done
    simp only [aimed, Option.toList_some]
    have result := result_bindProperty ⟨machine.manager, step.id, property, type, target⟩
      (Value.type_ofCarrier type data)
    simp only at result
    generalize bindProperty machine.manager target property (.ofCarrier type data) type = bound
      at result
    obtain ⟨manager, objectType, outcome⟩ := bound
    obtain ⟨rfl, rfl⟩ := Prod.mk.inj result
    -- The attempt has its effect just if it has no cause to fail.
    generalize attempted : (⟨machine.manager, step.id, property, type, target⟩ : Attempt Bag) =
      attempt
    cases cause : attempt.cause? <;> constructor <;> subst attempted <;>
      simp [finishProperty, produce, record, TraceEntry.isBound, Attempt.entry, Attempt.miss?,
        cause]

/-- Going on to the next step tells of no attempt. -/
theorem tells_next {id : StepId} {goal : Goal}
    (led : machine.next setting id = .ok (moved, goal)) : Tells setting machine moved [] := by
  unfold next at led
  simp only at led
  split at led
  · cases led
  · split at led
    · -- What was left out is recorded, and that is no property that was tried.
      cases led
      constructor <;> simp [record, TraceEntry.isBound]
    · cases led
      exact .refl setting machine

/-- From any step on, a run tells just of the property steps that it carries out. -/
theorem tells_follow (setting : RunSetting) (turns : Nat) (machine : Machine Bag)
    (cursor : StepId) :
    Tells setting machine (follow setting turns machine cursor).1
      (attempts setting turns machine cursor) := by
  -- Each turn tells of its own step first, and then of those that come after it.
  induction turns generalizing machine cursor with
  | zero => exact .refl setting machine
  | succ turns ih =>
    unfold follow attempts
    cases setting.plan.step? cursor with
    | none => exact .refl setting machine
    | some step =>
      simp only
      cases done : machine.execute setting step with
      | error fault => exact .refl setting machine
      | ok executed =>
        have carried := tells_execute done
        simp only
        cases led : executed.next setting step.id with
        | error fault =>
          simp only [List.append_nil]
          exact carried
        | ok onward =>
          obtain ⟨moved, goal⟩ := onward
          have next := carried.trans (tells_next led)
          rw [List.append_nil] at next
          cases goal with
          | exit =>
            simp only [List.append_nil]
            exact next
          | step id => exact next.trans (ih moved id)

/-- An attempt is made by a property step of the plan. -/
theorem step_of_mem_attempts (setting : RunSetting) {α : Type} [Bindable α] {turns : Nat}
    {machine : Machine α} {cursor : StepId} {attempt : Attempt α}
    (member : attempt ∈ attempts setting turns machine cursor) :
    ∃ step ∈ setting.plan.steps, step.id = attempt.step ∧
      step.call = .setProperty attempt.property attempt.type := by
  -- The attempt is that of the step which the run has come to, or one of those that come later.
  induction turns generalizing machine cursor with
  | zero => simp [attempts] at member
  | succ turns ih =>
    unfold attempts at member
    cases found : setting.plan.step? cursor with
    | none => simp [found] at member
    | some step =>
      simp only [found] at member
      cases done : machine.execute setting step with
      | error fault => simp [done] at member
      | ok executed =>
        simp only [done, List.mem_append, Option.mem_toList] at member
        rcases member with own | later
        · have placed : step ∈ setting.plan.steps :=
            List.mem_of_getElem? (Option.filter_eq_some_iff.mp found).1
          refine ⟨step, placed, ?_⟩
          unfold attempt? at own
          split at own
          · cases own
          · cases own
          · split at own
            · cases own
            · cases own
              exact ⟨rfl, by assumption⟩
        · split at later
          · cases later
          · cases later
          · exact ih later

end Telling

section Hushing

variable {α : Type}

/-- The state of a run without what it would report. -/
def hushed (machine : Machine α) : Machine α :=
  { machine with unresolved := [] }

/-- A property step ends in the same way with diagnostics off, but for the report. -/
theorem finishProperty_hushed (machine : Machine α) (id : StepId) (handle : Handle)
    (property : String) (objectType : Option String) (result : Except MissCause Unit) :
    machine.hushed.finishProperty (setting.observed false) id handle property objectType result =
      (machine.finishProperty (setting.observed true) id handle property objectType
        result).hushed := by
  cases result <;> rfl

/-- The way to the next step is the same with diagnostics off. -/
theorem next_hushed (machine : Machine α) (id : StepId) :
    machine.hushed.next (setting.observed false) id =
      (machine.next (setting.observed true) id).map fun (moved, goal) => (moved.hushed, goal) := by
  have valid : machine.hushed.handleValid? id = machine.handleValid? id := rfl
  have plan : (setting.observed false).plan = (setting.observed true).plan := rfl
  unfold next
  simp only [valid, plan]
  cases ((setting.observed true).plan.successors id).find? fun edge =>
      allows (machine.handleValid? id) edge.guard with
  | none => rfl
  | some edge =>
    by_cases invalid : edge.guard = .ifInvalid
    · simp only [invalid, if_true, Except.map]
      rfl
    · simp only [invalid, if_false, Except.map]

variable [Bindable α]

/-- Carrying out a step with diagnostics off is the same but for the report. -/
theorem execute_hushed (machine : Machine α) :
    machine.hushed.execute (setting.observed false) step =
      (machine.execute (setting.observed true) step).map hushed := by
  have typed (input : Input) (type : ValueType) :
      machine.hushed.typed (setting.observed false) step input type =
        machine.typed (setting.observed true) step input type := rfl
  have manager : machine.hushed.managerInput step = machine.managerInput step := rfl
  unfold execute
  cases step.call with
  | locate =>
    simp only [typed]
    cases machine.typed (setting.observed true) step .context .object <;> rfl
  | createOrShow =>
    simp only [typed, manager]
    -- The inputs are the same, so both are refused at the same one or at none.
    cases machine.managerInput step with
    | error fault => rfl
    | ok self =>
    cases machine.typed (setting.observed true) step .path .string with
    | error fault => rfl
    | ok path =>
    cases machine.typed (setting.observed true) step .itemId .string with
    | error fault => rfl
    | ok itemId =>
    cases machine.typed (setting.observed true) step .priority .integer with
    | error fault => rfl
    | ok priority =>
    cases machine.typed (setting.observed true) step .context .object with
    | error fault => rfl
    | ok context => rfl
  | setProperty property type =>
    simp only [typed]
    cases machine.typed (setting.observed true) step .target .object with
    | error fault => rfl
    | ok target =>
    cases machine.typed (setting.observed true) step .value type with
    | error fault => rfl
    | ok data =>
    -- The offer goes to the same manager, and is told in the same way.
    exact congrArg Except.ok (finishProperty_hushed { machine with manager := _ } ..)

/-- From any step on, a run with diagnostics off is the same but for the report. -/
theorem follow_hushed (turns : Nat) (machine : Machine α) (cursor : StepId) :
    follow (setting.observed false) turns machine.hushed cursor =
      ((follow (setting.observed true) turns machine cursor).1.hushed,
        (follow (setting.observed true) turns machine cursor).2) := by
  -- Both runs are in the same state before each turn, and so they take the same way.
  induction turns generalizing machine cursor with
  | zero => rfl
  | succ turns ih =>
    have plan : (setting.observed false).plan = (setting.observed true).plan := rfl
    unfold follow
    rw [plan]
    cases (setting.observed true).plan.step? cursor with
    | none => rfl
    | some step =>
      simp only [execute_hushed]
      cases machine.execute (setting.observed true) step with
      | error fault => rfl
      | ok executed =>
        simp only [Except.map, next_hushed]
        cases executed.next (setting.observed true) step.id with
        | error fault => rfl
        | ok onward =>
          obtain ⟨moved, goal⟩ := onward
          cases goal with
          | exit => rfl
          | step id => exact ih moved id

end Hushing

end Machine

/-- The report without what was missed. -/
def RunReport.hushed (report : RunReport) : RunReport :=
  { report with unresolved := [] }

namespace RunSetting

/-- A run with diagnostics off gives what the run with diagnostics on gives, but for what is
reported as missed. -/
theorem run_hushed {α : Type} [Bindable α] (setting : RunSetting) (manager : Manager α) :
    (setting.observed false).run manager =
      { (setting.observed true).run manager with
        result := ((setting.observed true).run manager).result.map RunReport.hushed } := by
  have plan : (setting.observed false).plan = (setting.observed true).plan := rfl
  -- Both runs are over in the same state.
  have same : (setting.observed false).loop manager =
      (((setting.observed true).loop manager).1.hushed,
        ((setting.observed true).loop manager).2) := by
    unfold loop
    rw [plan]
    cases (setting.observed true).plan.entry? with
    | none => rfl
    | some entry => exact Machine.follow_hushed _ (.start manager) entry
  rw [run_eq_finish_loop, run_eq_finish_loop, same]
  -- A fault is the same, and the output is read from what the steps have produced.
  generalize (setting.observed true).loop manager = ended
  obtain ⟨machine, _ | _⟩ := ended
  · rfl
  · simp only [Machine.finish]
    have output : machine.hushed.output (setting.observed false).plan.output =
      machine.output (setting.observed true).plan.output := rfl
    rw [output]
    cases machine.output (setting.observed true).plan.output <;> rfl

/-- The trace and the report of a run over bags tell just of the property steps that it carries
out. -/
theorem tells_loop (setting : RunSetting) (manager : Manager Bag) :
    Machine.Tells setting (.start manager) (setting.loop manager).1 (setting.attempts manager) := by
  unfold loop attempts
  cases setting.plan.entry? with
  | none => exact .refl setting (.start manager)
  | some entry =>
    exact Machine.tells_follow setting setting.plan.steps.length (.start manager) entry

/-- The report has the property steps without effect that the trace has, in order. -/
theorem map_entry_filterMap_miss? (attempts : List (Attempt Bag)) :
    (attempts.filterMap Attempt.miss?).map Miss.entry =
      (attempts.map Attempt.entry).filter TraceEntry.isMiss := by
  induction attempts with
  | nil => rfl
  | cons attempt rest ih =>
    cases cause : attempt.cause? <;>
      simp [Attempt.miss?, Attempt.entry, Miss.entry, TraceEntry.isMiss, cause, ih]

/-- No attempt fails because a bag has the property and refuses the value. -/
theorem reason_ne_rejected {attempt : Attempt Bag} {miss : Miss}
    (missed : attempt.miss? = some miss) : miss.reason ≠ .binding .rejected := by
  obtain ⟨reason, cause, rfl⟩ := Option.map_eq_some_iff.mp missed
  -- The causes are gone through one after the other, and none of them is a refusal.
  unfold Attempt.cause? at cause
  split at cause
  · cases cause
    simp
  · split at cause
    · cases cause
      simp
    · split at cause
      · cases cause
      · cases cause
        simp

/-- Diagnostics observe a run over bags and do not touch it, whatever the plan. With diagnostics off
the run gives the same as with diagnostics on and reports nothing. With diagnostics on it reports
just the property steps that the trace tells to have had no effect, in order, each with the cause
that the object of its handle gave it when the step was carried out. No bag refuses a value for a
property that it has. -/
theorem diagnostics_exact (setting : RunSetting) (manager : Manager Bag) :
    let on := (setting.observed true).run manager
    let off := (setting.observed false).run manager
    let attempts := (setting.observed true).attempts manager
    off = { on with result := on.result.map RunReport.hushed } ∧
    (∀ report, on.result = .ok report →
      report.unresolved.map Miss.entry = report.trace.entries.filter TraceEntry.isMiss ∧
      report.trace.entries.filter TraceEntry.isBound = attempts.map Attempt.entry ∧
      report.unresolved = attempts.filterMap Attempt.miss? ∧
      ∀ miss ∈ report.unresolved, miss.reason ≠ .binding .rejected) ∧
    ∀ attempt ∈ attempts, ∃ step ∈ setting.plan.steps, step.id = attempt.step ∧
      step.call = .setProperty attempt.property attempt.type := by
  intro on off attempts
  refine ⟨run_hushed setting manager, ?_, ?_⟩
  · intro report given
    obtain ⟨_, handle, _, rfl⟩ := run_eq_ok_iff.mp given
    have tells := tells_loop (setting.observed true) manager
    have entries : ((setting.observed true).loop manager).1.trace.filter TraceEntry.isBound =
        attempts.map Attempt.entry := tells.entries
    have misses : ((setting.observed true).loop manager).1.unresolved =
        attempts.filterMap Attempt.miss? := tells.misses
    refine ⟨?_, entries, misses, ?_⟩
    · -- Whatever tells of a property that was not set tells of a property step.
      have among (entry : TraceEntry) : entry.isMiss = (entry.isMiss && entry.isBound) := by
        cases entry <;> simp [TraceEntry.isMiss, TraceEntry.isBound]
      simp only [misses, map_entry_filterMap_miss?, ← entries, List.filter_filter, ← among]
    · intro miss member
      simp only [misses, List.mem_filterMap] at member
      obtain ⟨attempt, _, missed⟩ := member
      exact reason_ne_rejected missed
  · intro attempt member
    unfold attempts RunSetting.attempts at member
    split at member
    · cases member
    · exact Machine.step_of_mem_attempts (setting.observed true) member

end RunSetting

namespace Plan

/-- A step that sets a property of the object of a handle. -/
def setting (id : StepId) (property : String) (value : Value) (object : Feed) : Step :=
  ⟨id, .setProperty property value.type, [⟨.target, object⟩, ⟨.value, .literal value⟩], none⟩

/-- A plan by hand with one property step that has its effect, and three that have none. -/
def hopeful : Plan where
  nodeId := "hopeful"
  steps :=
    [⟨⟨0⟩, .locate, [⟨.context, .ambient⟩], none⟩, askFor ⟨1⟩ "first",
      setting ⟨2⟩ "Title" (.string "First") (.step ⟨1⟩ .handle),
      setting ⟨3⟩ "Shade" (.string "Dark") (.step ⟨1⟩ .handle),
      setting ⟨4⟩ "Width" (.integer 320) (.step ⟨1⟩ .handle),
      setting ⟨5⟩ "Title" (.string "Ninth") (.literal (.object ⟨some 9⟩))]
  control := guardedEdges false ⟨0⟩ (.step ⟨1⟩) ++ guardedEdges true ⟨1⟩ (.step ⟨2⟩) ++
    guardedEdges false ⟨2⟩ (.step ⟨3⟩) ++ guardedEdges false ⟨3⟩ (.step ⟨4⟩) ++
    guardedEdges false ⟨4⟩ (.step ⟨5⟩) ++ guardedEdges false ⟨5⟩ .exit
  redirects := []
  output := .step ⟨1⟩ .handle

end Plan

namespace RunSetting

/-- A manager that can make the first item of the panel. -/
def panelManager : Manager Bag :=
  .ofCatalog id [⟨"panel", "first", ⟨"Popup", [⟨"Title", .string⟩, ⟨"Width", .float⟩]⟩⟩]

/-- Diagnostics tell apart the three ways in which the hopeful plan misses. -/
theorem diagnostics_exact_hopeful :
    ∃ report, ((RunSetting.mk Plan.hopeful .empty .invalid true).run panelManager).result =
        .ok report ∧
      report.unresolved =
        [⟨⟨3⟩, "Shade", some "Popup", .binding .missingProperty⟩,
          ⟨⟨4⟩, "Width", some "Popup", .binding (.typeMismatch .integer .float)⟩,
          ⟨⟨5⟩, "Title", none, .objectUnavailable⟩] ∧
      report.unresolved.map Miss.entry = report.trace.entries.filter TraceEntry.isMiss ∧
      ((RunSetting.mk Plan.hopeful .empty .invalid false).run panelManager).result =
        .ok report.hushed := by
  obtain ⟨same, reports, _⟩ :=
    diagnostics_exact ⟨Plan.hopeful, .empty, .invalid, true⟩ panelManager
  have given : ∃ report, ((RunSetting.mk Plan.hopeful .empty .invalid true).run
      panelManager).result = .ok report ∧ report.unresolved =
        [⟨⟨3⟩, "Shade", some "Popup", .binding .missingProperty⟩,
          ⟨⟨4⟩, "Width", some "Popup", .binding (.typeMismatch .integer .float)⟩,
          ⟨⟨5⟩, "Title", none, .objectUnavailable⟩] := ⟨_, rfl, by decide +kernel⟩
  obtain ⟨report, succeeded, misses⟩ := given
  refine ⟨report, succeeded, misses, (reports report succeeded).1, ?_⟩
  have quiet := congrArg RunResult.result same
  simp only [observed, succeeded] at quiet
  exact quiet

end RunSetting

end CallChain
