import CallChain.Proofs.Manager.Keys
import CallChain.Proofs.Run.Execution

/-! Later states of a run: a step that was carried out can be carried out again at any later time,
and is left over the same edge as before. -/

namespace CallChain

/-- A step that is found by an id has it. -/
theorem Plan.id_of_step? {plan : Plan} {id : StepId} {step : Step}
    (found : plan.step? id = some step) : step.id = id :=
  eq_of_beq (Option.filter_eq_some_iff.mp found).2

/-- What can be produced on an output. The manager that is located is always the same. -/
inductive Product.Fits : Product → Output → Prop where
  -- No other handle of a manager is ever handed out.
  | manager : Fits (.manager Manager.ownHandle) .manager
  | handle (handle : Handle) : Fits (.handle handle) .handle
  | success (bound : Bool) : Fits (.success bound) .success

/-- Two values that one feed can have at different times: only a handle and a truth value may
change. -/
inductive Value.Alike : Value → Value → Prop where
  | same (value : Value) : Alike value value
  -- These are the only values that steps can give to other steps.
  | handles (first second : Handle) : Alike (.object first) (.object second)
  | truths (first second : Bool) : Alike (.bool first) (.bool second)

namespace Value.Alike

variable {first second : Value}

/-- Values that are alike can be converted to the same types. -/
theorem exists_carrier? (alike : first.Alike second) {type : ValueType} {data : type.Carrier}
    (given : first.carrier? type = some data) : ∃ other, second.carrier? type = some other := by
  -- Whether a value can be converted depends on its type only.
  cases alike with
  | same => exact ⟨data, given⟩
  | handles one two =>
    -- A handle is an object and nothing else.
    cases type <;> simp [carrier?, coerce?, Value.type, data?] at given ⊢
  | truths one two =>
    cases type <;> simp [carrier?, coerce?, Value.type, data?] at given ⊢

/-- Values that are alike are the same string, if they are strings. -/
theorem carrier?_string (alike : first.Alike second) :
    second.carrier? .string = first.carrier? .string := by
  -- Neither a handle nor a truth value is a string.
  cases alike <;> rfl

end Value.Alike

namespace Machine

variable {α : Type}

/-- What holds of each state of a run: what was produced fits its output, and was produced by the
step of the plan whose call has this output. -/
structure Orderly (setting : RunSetting) (machine : Machine α) : Prop where
  fits : ∀ id output product, machine.product? id output = some product → product.Fits output
  owned : ∀ id output product, machine.product? id output = some product →
    ∃ step, setting.plan.step? id = some step ∧ step.call.output = output

/-- Two states of one run, the later of which has at least the products of the earlier one. Both
have managers that can give the same items. -/
structure Precedes (setting : RunSetting) (before after : Machine α) : Prop where
  early : before.Orderly setting
  late : after.Orderly setting
  -- The product may be another one by then, as a step can be carried out again.
  products : ∀ id output product, before.product? id output = some product →
    ∃ later, after.product? id output = some later
  provides : ∀ key, after.manager.provides key = before.manager.provides key

variable {setting : RunSetting} {machine executed before after : Machine α} {step : Step}

/-- A run starts without any products. -/
theorem orderly_start (setting : RunSetting) (manager : Manager α) :
    (start manager).Orderly setting := by
  -- Both parts speak of what was produced, and nothing was.
  constructor
  · intro id output product produced
    cases produced
  · intro id output product produced
    cases produced

section Inputs

/-- A feed that has a value has one later on as well, which is another one for an output only. -/
theorem Precedes.resolve (precedes : Precedes setting before after) {id : StepId} {source : Feed}
    {value : Value} (resolved : before.resolve setting id source = .ok value) :
    ∃ later, after.resolve setting id source = .ok later ∧ value.Alike later := by
  -- Literals, supplied values and the context do not depend on the state at all.
  cases source with
  | literal given => exact ⟨value, resolved, .same value⟩
  | linked source => exact ⟨value, resolved, .same value⟩
  | ambient => exact ⟨value, resolved, .same value⟩
  | step producer output =>
    simp only [Machine.resolve] at resolved ⊢
    cases produced : before.product? producer output with
    | none => simp [produced] at resolved
    | some product =>
      -- What is produced on the output by then is of the same kind.
      obtain ⟨later, kept⟩ := precedes.products producer output product produced
      have fits := precedes.early.fits producer output product produced
      have still := precedes.late.fits producer output later kept
      rw [produced] at resolved
      rw [kept]
      cases fits with
      | manager =>
        -- A manager is no value, so the feed would not have had one.
        cases resolved
      | handle handle =>
        cases resolved
        cases still with
        | handle other => exact ⟨.object other, rfl, .handles handle other⟩
      | success bound =>
        cases resolved
        cases still with
        | success other => exact ⟨.bool other, rfl, .truths bound other⟩

/-- An input has data just if its feed has a value that can be converted. -/
theorem typed_eq_ok_iff {input : Input} {type : ValueType} {data : type.Carrier} :
    machine.typed setting step input type = .ok data ↔
      ∃ source value, feed step input = .ok source ∧
        machine.resolve setting step.id source = .ok value ∧ value.carrier? type = some data := by
  simp only [typed, bind_eq_ok_iff]
  constructor
  · intro given
    obtain ⟨source, fed, value, resolved, converted⟩ := given
    refine ⟨source, value, fed, resolved, ?_⟩
    cases carried : value.carrier? type with
    | none =>
      -- A value of another type is reported, not passed on.
      simp [carried, throw] at converted
    | some found =>
      rw [carried] at converted
      exact congrArg some (pure_eq_ok_iff.mp converted)
  · intro given
    obtain ⟨source, value, fed, resolved, carried⟩ := given
    refine ⟨source, fed, value, resolved, ?_⟩
    rw [carried]
    rfl

/-- An input that has data has some later on as well. -/
theorem Precedes.typed (precedes : Precedes setting before after) {input : Input}
    {type : ValueType} {data : type.Carrier}
    (given : before.typed setting step input type = .ok data) :
    ∃ later, after.typed setting step input type = .ok later := by
  obtain ⟨source, value, fed, resolved, carried⟩ := typed_eq_ok_iff.mp given
  -- The feed has a value by then that can be converted to the same type.
  obtain ⟨later, again, alike⟩ := precedes.resolve resolved
  obtain ⟨other, converted⟩ := alike.exists_carrier? carried
  refine ⟨other, ?_⟩
  exact typed_eq_ok_iff.mpr ⟨source, later, fed, again, converted⟩

/-- An input that is a string is the same string later on. -/
theorem Precedes.typed_string (precedes : Precedes setting before after) {input : Input}
    {data : String} (given : before.typed setting step input .string = .ok data) :
    after.typed setting step input .string = .ok data := by
  obtain ⟨source, value, fed, resolved, carried⟩ := typed_eq_ok_iff.mp given
  obtain ⟨later, again, alike⟩ := precedes.resolve resolved
  -- A string cannot have come from another step, whose product might be another one now.
  have same : later.carrier? .string = some data := alike.carrier?_string.trans carried
  exact typed_eq_ok_iff.mpr ⟨source, later, fed, again, same⟩

/-- A manager can be taken from another step only, and is there once that step has produced it. -/
theorem managerInput_eq_ok_iff {self : ManagerHandle} :
    machine.managerInput step = .ok self ↔
      ∃ producer output, feed step .manager = .ok (.step producer output) ∧
        machine.product? producer output = some (.manager self) := by
  simp only [managerInput, bind_eq_ok_iff]
  constructor
  · intro given
    obtain ⟨source, fed, given⟩ := given
    cases source with
    | literal | linked | ambient => cases given
    | step producer output =>
      -- Any other product than a manager is reported as missing.
      simp only at given
      split at given
      · next handle produced =>
        obtain rfl := pure_eq_ok_iff.mp given
        exact ⟨producer, output, fed, produced⟩
      · cases given
  · intro given
    obtain ⟨producer, output, fed, produced⟩ := given
    refine ⟨_, fed, ?_⟩
    simp only [produced]
    rfl

/-- A manager that is taken from another step is the one that was located. -/
theorem Orderly.managerInput_eq (orderly : machine.Orderly setting) {self : ManagerHandle}
    (given : machine.managerInput step = .ok self) : self = Manager.ownHandle := by
  obtain ⟨producer, output, _, produced⟩ := managerInput_eq_ok_iff.mp given
  cases orderly.fits producer output _ produced
  rfl

/-- A manager that is there is still there later on. -/
theorem Precedes.managerInput (precedes : Precedes setting before after) {self : ManagerHandle}
    (given : before.managerInput step = .ok self) : after.managerInput step = .ok self := by
  obtain ⟨producer, output, fed, produced⟩ := managerInput_eq_ok_iff.mp given
  obtain ⟨later, kept⟩ := precedes.products producer output _ produced
  apply managerInput_eq_ok_iff.mpr
  refine ⟨producer, output, fed, ?_⟩
  -- The only manager that is ever produced is the one that was located.
  have fits := precedes.early.fits producer output _ produced
  have still := precedes.late.fits producer output later kept
  cases fits
  cases still
  exact kept

end Inputs

section Execution

variable [Bindable α]

/-- What carrying a step out comes to, as far as the way from step to step goes. -/
structure Works (setting : RunSetting) (step : Step) (machine executed : Machine α) : Prop where
  produced : ∃ product, executed.produced =
    ((step.id, step.call.output), product) :: machine.produced ∧ product.Fits step.call.output
  provides : ∀ key, executed.manager.provides key = machine.manager.provides key
  /-- The handle that is given for an item is valid just if the manager can give the item. -/
  answers : step.call = .createOrShow → ∃ self path itemId handle,
    machine.managerInput step = .ok self ∧
    machine.typed setting step .path .string = .ok path ∧
    machine.typed setting step .itemId .string = .ok itemId ∧
    executed.product? step.id .handle = some (.handle handle) ∧
    (self = Manager.ownHandle → handle.isValid = machine.manager.provides ⟨path, itemId⟩)

/-- A step that is carried out works, whichever call it makes. -/
theorem works_of_execute (done : machine.execute setting step = .ok executed) :
    Works setting step machine executed := by
  unfold execute at done
  -- Each call produces on its own output, and none takes an item away from the manager.
  cases call : step.call with
  | locate =>
    simp only [call, bind_eq_ok_iff, pure_eq_ok_iff] at done
    obtain ⟨context, _, rfl⟩ := done
    -- All that the manager has noted is that it was looked for.
    exact ⟨⟨_, by rw [call]; rfl, by rw [call]; exact .manager⟩, fun _ => rfl, by simp [call]⟩
  | createOrShow =>
    simp only [call, bind_eq_ok_iff, pure_eq_ok_iff] at done
    obtain ⟨self, manager, path, pathData, itemId, itemData, priority, _, context, _, rfl⟩ := done
    refine ⟨⟨_, by rw [call]; rfl, by rw [call]; exact .handle _⟩, ?_, fun _ => ?_⟩
    · -- An item that was made could be made before.
      exact machine.manager.provides_createOrShow self ⟨path, itemId, priority, context⟩
    · refine ⟨self, path, itemId, _, manager, pathData, itemData, product?_produce _ _ _ _, ?_⟩
      intro own
      subst own
      exact machine.manager.isValid_createOrShow ⟨path, itemId, priority, context⟩
  | setProperty property type =>
    simp only [call, bind_eq_ok_iff, pure_eq_ok_iff] at done
    obtain ⟨target, _, data, _, rfl⟩ := done
    have kept := machine.manager.provides_bindProperty target property (.ofCarrier type data) type
    -- Whether or not the property was set, the step has told so on its output.
    unfold finishProperty
    split
    · exact ⟨⟨_, by rw [call]; rfl, by rw [call]; exact .success _⟩, kept, by simp [call]⟩
    · exact ⟨⟨_, by rw [call]; rfl, by rw [call]; exact .success _⟩, kept, by simp [call]⟩

omit [Bindable α] in
/-- A product that was put before all others is the one that is found in its place. -/
theorem product?_of_produced {product : Product} {made : Output}
    (gives : executed.produced = ((step.id, made), product) :: machine.produced) (id : StepId)
    (output : Output) : executed.product? id output =
      if id = step.id ∧ output = made then some product else machine.product? id output := by
  by_cases own : id = step.id ∧ output = made
  · obtain ⟨rfl, rfl⟩ := own
    simp [product?, gives]
  · -- In any other place the search passes by the new product.
    have other : ((step.id, made) == (id, output)) = false := by
      apply beq_eq_false_iff_ne.mpr
      intro same
      obtain ⟨rfl, rfl⟩ := Prod.mk.inj same
      exact own ⟨rfl, rfl⟩
    simp [product?, gives, own, other]

omit [Bindable α] in
/-- The state after a step that was carried out is a later one. -/
theorem Works.precedes (works : Works setting step machine executed)
    (found : setting.plan.step? step.id = some step) (orderly : machine.Orderly setting) :
    Precedes setting machine executed := by
  obtain ⟨product, gives, fits⟩ := works.produced
  have looked := product?_of_produced gives
  refine ⟨orderly, ⟨?_, ?_⟩, ?_, works.provides⟩
  · intro id output other produced
    rw [looked] at produced
    split at produced
    · -- The new product fits the output of the call that has made it.
      next own =>
      obtain ⟨rfl, rfl⟩ := own
      cases produced
      exact fits
    · exact orderly.fits id output other produced
  · intro id output other produced
    rw [looked] at produced
    split at produced
    · -- And it was made by a step of the plan, namely this one.
      next own =>
      obtain ⟨rfl, rfl⟩ := own
      exact ⟨step, found, rfl⟩
    · exact orderly.owned id output other produced
  · -- What was there is still there, or the step has put its product over it.
    intro id output other produced
    rw [looked]
    split
    · exact ⟨product, rfl⟩
    · exact ⟨other, produced⟩

/-- The key of the item that a step asks for, if it asks for one. -/
def askedKey? (machine : Machine α) (setting : RunSetting) (step : Step) : Option ItemKey :=
  match step.call with
  | .locate | .setProperty _ _ => none
  | .createOrShow =>
    -- Priority and context are asked for as well, but the answer does not depend on them.
    match machine.typed setting step .path .string, machine.typed setting step .itemId .string with
    | .ok path, .ok itemId => some ⟨path, itemId⟩
    | _, _ => none

/-- The guards of a step go by whether the manager can give the item that the step asks for. -/
theorem handleValid?_of_execute (orderly : machine.Orderly setting)
    (found : setting.plan.step? step.id = some step)
    (done : machine.execute setting step = .ok executed) :
    executed.handleValid? step.id =
      (machine.askedKey? setting step).map machine.manager.provides := by
  have works := works_of_execute done
  by_cases asks : step.call = .createOrShow
  · -- The manager that is asked is the one that was located, and it answers by the key.
    obtain ⟨self, path, itemId, handle, manager, pathData, itemData, given, valid⟩ :=
      works.answers asks
    have own := orderly.managerInput_eq manager
    rw [handleValid?, given, askedKey?, asks]
    simp only [pathData, itemData, Option.map_some, valid own]
  · -- The step has never produced a handle, for no other call does.
    have unanswered : executed.product? step.id .handle = none := by
      by_contra present
      -- Whoever produced a handle under this id is the step of the plan with the id.
      obtain ⟨product, produced⟩ := Option.ne_none_iff_exists'.mp present
      obtain ⟨other, same, gives⟩ :=
        (works.precedes found orderly).late.owned step.id .handle product produced
      obtain rfl := Option.some.inj (found.symm.trans same)
      cases call : step.call with
      | createOrShow => exact asks call
      | locate => simp [call, Call.output] at gives
      | setProperty => simp [call, Call.output] at gives
    rw [handleValid?, unanswered, askedKey?]
    cases call : step.call with
    | createOrShow => exact absurd call asks
    | locate => rfl
    | setProperty => rfl

/-- A step that can be carried out can be carried out later on. -/
theorem Precedes.execute (precedes : Precedes setting before after)
    (done : before.execute setting step = .ok executed) :
    ∃ again, after.execute setting step = .ok again := by
  unfold Machine.execute at done ⊢
  -- All inputs that were there are still there.
  cases call : step.call with
  | locate =>
    simp only [call, bind_eq_ok_iff] at done ⊢
    obtain ⟨_, context, _⟩ := done
    obtain ⟨_, context⟩ := precedes.typed context
    exact ⟨_, _, context, rfl⟩
  | createOrShow =>
    simp only [call, bind_eq_ok_iff] at done ⊢
    obtain ⟨_, manager, _, path, _, itemId, _, priority, _, context, _⟩ := done
    -- The manager, the path and the item are the same; priority and context need only be there.
    obtain ⟨_, priority⟩ := precedes.typed priority
    obtain ⟨_, context⟩ := precedes.typed context
    exact ⟨_, _, precedes.managerInput manager, _, precedes.typed_string path, _,
      precedes.typed_string itemId, _, priority, _, context, rfl⟩
  | setProperty property type =>
    simp only [call, bind_eq_ok_iff] at done ⊢
    obtain ⟨_, target, _, data, _⟩ := done
    -- Whether the property can be set makes no difference to whether the step is carried out.
    obtain ⟨_, target⟩ := precedes.typed target
    obtain ⟨_, data⟩ := precedes.typed data
    exact ⟨_, _, target, _, data, rfl⟩

/-- A step that was carried out asks for the same item later on. -/
theorem Precedes.askedKey?_eq (precedes : Precedes setting before after)
    (done : before.execute setting step = .ok executed) :
    after.askedKey? setting step = before.askedKey? setting step := by
  -- Path and item have to be strings, and strings do not change during a run.
  unfold Machine.askedKey?
  cases call : step.call with
  | locate => rfl
  | setProperty => rfl
  | createOrShow =>
    obtain ⟨_, path, itemId, _, _, pathData, itemData, _, _⟩ := (works_of_execute done).answers call
    simp only [pathData, itemData, precedes.typed_string pathData, precedes.typed_string itemData]

end Execution

/-- A step is left over the first edge whose guard holds. -/
theorem next_eq_ok_iff {id : StepId} {moved : Machine α} {goal : Goal} :
    machine.next setting id = .ok (moved, goal) ↔
      ∃ edge, (setting.plan.successors id).find? (fun edge =>
          allows (machine.handleValid? id) edge.guard) = some edge ∧ edge.goal = goal ∧
        (if edge.guard = .ifInvalid then
            machine.record (.shortCircuited id (propertiesAfter setting.plan id))
          else machine) = moved := by
  simp only [next]
  cases (setting.plan.successors id).find? fun edge =>
      allows (machine.handleValid? id) edge.guard with
  | none => simp
  | some edge =>
    -- An edge for an invalid handle leaves an entry in the trace.
    by_cases leaves : edge.guard = .ifInvalid
    · simp [leaves, and_comm]
    · simp [leaves, and_comm]

section Turns

variable [Bindable α] {moved : Machine α} {cursor : StepId} {goal : Goal}

/-- A turn of a run leads to a later state. -/
theorem Turn.precedes (turn : Turn setting cursor machine moved goal)
    (orderly : machine.Orderly setting) : Precedes setting machine moved := by
  obtain ⟨found, done, led⟩ := turn
  obtain rfl := Plan.id_of_step? found
  have carried := (works_of_execute done).precedes found orderly
  obtain ⟨edge, _, _, rfl⟩ := next_eq_ok_iff.mp led
  -- An entry in the trace is all that leaving a step can add.
  split
  · exact ⟨carried.early, ⟨carried.late.fits, carried.late.owned⟩, carried.products,
      carried.provides⟩
  · exact carried

/-- A turn that was made can be made again later on, and leads to the same goal: the inputs that may
decide the item are the same, and so is the answer of the manager. -/
theorem Precedes.turn_again (precedes : Precedes setting before after)
    (turn : Turn setting cursor before moved goal) :
    ∃ again, Turn setting cursor after again goal := by
  obtain @⟨step, executed, found, done, led⟩ := turn
  obtain rfl := Plan.id_of_step? found
  obtain ⟨again, redone⟩ := precedes.execute done
  -- The handle that is given now is valid just if the one that was given then is.
  have provided : after.manager.provides = before.manager.provides := funext precedes.provides
  have valid : again.handleValid? step.id = executed.handleValid? step.id := by
    rw [handleValid?_of_execute precedes.late found redone, precedes.askedKey?_eq done, provided,
      ← handleValid?_of_execute precedes.early found done]
  -- So the guards let the run pass over the same edge.
  obtain ⟨edge, first, same, _⟩ := next_eq_ok_iff.mp led
  rw [← valid] at first
  exact ⟨_, found, redone, next_eq_ok_iff.mpr ⟨edge, first, same, rfl⟩⟩

end Turns

end Machine

end CallChain
