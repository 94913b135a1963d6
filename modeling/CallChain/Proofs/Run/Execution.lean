import CallChain.Proofs.Run.Machine
import CallChain.Proofs.Sequence
import CallChain.Run.Visits

/-! Execution: what carrying out one step does to a machine, whichever call the step makes. -/

namespace CallChain.Machine

variable {α : Type}

/-- What a machine has been through when it has carried out a step: the step has given something on
the output of its call, and the trace has one entry about it. -/
structure Carried (machine executed : Machine α) (step : Step) : Prop where
  produced : ∃ product, executed.produced =
    ((step.id, step.call.output), product) :: machine.produced ∧
      (step.call = .createOrShow → ∃ handle, product = .handle handle)
  recorded : ∃ entry, executed.trace = machine.trace ++ [entry] ∧ entry.step? = some step.id ∧
    entry.property? = step.call.property? ∧ entry.skipped = []

variable {machine executed : Machine α} {setting : RunSetting} {step : Step}

variable [Bindable α]

/-- A step that is carried out gives one product and makes one entry, both under its own id. -/
theorem carried_of_execute (done : machine.execute setting step = .ok executed) :
    machine.Carried executed step := by
  unfold execute at done
  -- Whatever a call does, it ends by producing on its own output and recording one entry.
  cases call : step.call with
  | locate =>
    simp only [call, bind_eq_ok_iff, pure_eq_ok_iff] at done
    obtain ⟨context, _, rfl⟩ := done
    exact ⟨⟨_, by rw [call]; rfl, by simp [call]⟩, ⟨_, rfl, rfl, by rw [call]; rfl, rfl⟩⟩
  | createOrShow =>
    simp only [call, bind_eq_ok_iff, pure_eq_ok_iff] at done
    obtain ⟨_, _, _, _, _, _, _, _, _, _, rfl⟩ := done
    exact ⟨⟨_, by rw [call]; rfl, fun _ => ⟨_, rfl⟩⟩, ⟨_, rfl, rfl, by rw [call]; rfl, rfl⟩⟩
  | setProperty property type =>
    simp only [call, bind_eq_ok_iff, pure_eq_ok_iff] at done
    obtain ⟨target, _, data, _, rfl⟩ := done
    -- Whether or not the property was set, the step is recorded as one that ran.
    unfold finishProperty
    split
    · exact ⟨⟨_, by rw [call]; rfl, by simp [call]⟩, ⟨_, rfl, rfl, by rw [call]; rfl, rfl⟩⟩
    · exact ⟨⟨_, by rw [call]; rfl, by simp [call]⟩, ⟨_, rfl, rfl, by rw [call]; rfl, rfl⟩⟩

end CallChain.Machine
